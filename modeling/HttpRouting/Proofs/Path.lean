import HttpRouting.Path

/-!
# Trimmed paths

A text is trimmed when it neither begins nor ends with a space or a slash.
Trimming makes a text so, and changes nothing afterwards.
-/

namespace HttpRouting.Path

structure IsTrimmed (s : List Char) : Prop where
  head : ∀ c, s.head? = some c → isFiller c = false
  last : ∀ c, s.getLast? = some c → isFiller c = false

theorem dropWhile_head? {s : List Char} {c : Char} (h : (s.dropWhile isFiller).head? = some c) :
    isFiller c = false := by
  have hnot := List.head?_dropWhile_not isFiller s
  rw [h] at hnot
  simpa using hnot

theorem trimRight_getLast? {s : List Char} {c : Char} (h : (trimRight s).getLast? = some c) :
    isFiller c = false := by
  rw [trimRight, List.getLast?_reverse] at h
  exact dropWhile_head? h

theorem trimRight_append (s : List Char) : ∃ fillers, trimRight s ++ fillers = s := by
  refine ⟨(s.reverse.takeWhile isFiller).reverse, ?_⟩
  rw [trimRight, ← List.reverse_append, List.takeWhile_append_dropWhile, List.reverse_reverse]

theorem isTrimmed_trim (s : List Char) : IsTrimmed (trim s) where
  head := by
    intro c hc
    obtain ⟨fillers, happend⟩ := trimRight_append (trimLeft s)
    refine dropWhile_head? (s := s) ?_
    rw [show s.dropWhile isFiller = trimLeft s from rfl, ← happend]
    simp [List.head?_append, show trimRight (trimLeft s) = trim s from rfl, hc]
  last := fun _ hc => trimRight_getLast? hc

theorem mem_of_mem_trim {c : Char} {s : List Char} (h : c ∈ trim s) : c ∈ s := by
  rw [trim, trimRight, List.mem_reverse] at h
  have hleft := List.mem_reverse.mp ((List.dropWhile_suffix isFiller).subset h)
  exact (List.dropWhile_suffix isFiller).subset hleft

theorem trimLeft_eq {s : List Char} (h : ∀ c, s.head? = some c → isFiller c = false) :
    trimLeft s = s := by
  cases s with
  | nil => rfl
  | cons c rest => simp [trimLeft, h c rfl]

theorem trimRight_eq {s : List Char} (h : ∀ c, s.getLast? = some c → isFiller c = false) :
    trimRight s = s := by
  have hreverse : s.reverse.dropWhile isFiller = s.reverse :=
    trimLeft_eq fun c hc => h c (by rwa [List.head?_reverse] at hc)
  rw [trimRight, hreverse, List.reverse_reverse]

theorem trim_eq {s : List Char} (h : IsTrimmed s) : trim s = s := by
  rw [trim, trimLeft_eq h.head, trimRight_eq h.last]

theorem trimRight_append_slash (s : List Char) : trimRight (s ++ ['/']) = trimRight s := by
  rw [trimRight, List.reverse_append, List.reverse_singleton, List.singleton_append,
    List.dropWhile_cons_of_pos rfl, trimRight]

theorem trimRight_cons (c : Char) (s : List Char) :
    trimRight (c :: s) =
      if trimRight s = [] then (if isFiller c then [] else [c]) else c :: trimRight s := by
  rw [trimRight, List.reverse_cons, List.dropWhile_append, trimRight]
  cases s.reverse.dropWhile isFiller with
  | nil => cases hc : isFiller c <;> simp [List.dropWhile, hc]
  | cons d rest => simp

theorem trimLeft_trimRight (s : List Char) : trimLeft (trimRight s) = trim s := by
  induction s with
  | nil => rfl
  | cons c s ih =>
      cases hc : isFiller c with
      | true =>
          have hleft : trimLeft (c :: s) = trimLeft s := List.dropWhile_cons_of_pos hc
          rw [trim, hleft, ← trim, ← ih, trimRight_cons, hc]
          split
          next hnil => rw [hnil]; rfl
          next => exact List.dropWhile_cons_of_pos hc
      | false =>
          have hkeep (rest : List Char) : trimLeft (c :: rest) = c :: rest :=
            List.dropWhile_cons_of_neg (by simp [hc])
          rw [trim, hkeep, trimRight_cons, hc]
          split <;> exact hkeep _

/-! ## Joining -/

theorem trim_slash_cons {s : List Char} (h : IsTrimmed s) : trim ('/' :: s) = s := by
  have hleft : trimLeft ('/' :: s) = trimLeft s := List.dropWhile_cons_of_pos rfl
  rw [trim, hleft]
  exact trim_eq h

theorem trim_append_slash {s : List Char} (h : IsTrimmed s) : trim (s ++ ['/']) = s := by
  cases s with
  | nil => rfl
  | cons c rest =>
      have hleft : trimLeft (c :: rest ++ ['/']) = c :: rest ++ ['/'] :=
        trimLeft_eq fun d hd => h.head d hd
      rw [trim, hleft, trimRight_append_slash, trimRight_eq h.last]

theorem IsTrimmed.append_slash {first second : List Char} (hfirst : IsTrimmed first)
    (hsecond : IsTrimmed second) (hne : first ≠ []) (hne' : second ≠ []) :
    IsTrimmed (first ++ '/' :: second) where
  head := by
    intro c hc
    obtain ⟨d, hd⟩ := Option.isSome_iff_exists.mp (List.isSome_head?.mpr hne)
    rw [List.head?_append, hd] at hc
    exact hfirst.head c (hd.trans hc)
  last := by
    intro c hc
    obtain ⟨d, hd⟩ := Option.isSome_iff_exists.mp (List.getLast?_isSome.mpr hne')
    rw [List.getLast?_append, List.getLast?_cons, hd] at hc
    exact hsecond.last c (hd.trans hc)

/-! ## On strings -/

theorem isTrimmed_trimSlashes (path : String) : IsTrimmed (trimSlashes path).toList := by
  rw [trimSlashes, String.toList_ofList]
  exact isTrimmed_trim _

theorem trimSlashes_eq {path : String} (h : IsTrimmed path.toList) : trimSlashes path = path := by
  rw [trimSlashes, trim_eq h, String.ofList_toList]

theorem normalizeBase_eq (path : String) :
    normalizeBase path =
      if trimSlashes path = "" then "/" else "/" ++ trimSlashes path ++ "/" := by
  have hchars : (normalizeBase path).toList =
      if trim path.toList = [] then ['/'] else '/' :: trim path.toList ++ ['/'] := by
    rw [normalizeBase, addLeadingSlash, String.toList_ofList, addTrailingSlash,
      String.toList_ofList, trimLeft, List.dropWhile_append, ← trimLeft, trimLeft_trimRight]
    cases trim path.toList with
    | nil => rfl
    | cons c rest => rfl
  refine String.toList_inj.mp (hchars.trans ?_)
  rw [trimSlashes]
  by_cases hnil : trim path.toList = []
  · simp [hnil]
  · simp [hnil, String.toList_ofList]

theorem trimSlashes_join {first second : String} (hfirst : IsTrimmed first.toList)
    (hsecond : IsTrimmed second.toList) :
    trimSlashes (first ++ "/" ++ second) =
      if first.isEmpty then second
      else if second.isEmpty then first
      else first ++ "/" ++ second := by
  have hchars : (first ++ "/" ++ second).toList = first.toList ++ '/' :: second.toList := by simp
  by_cases hempty : first = ""
  · subst hempty
    rw [trimSlashes, hchars, String.toList_empty, List.nil_append, trim_slash_cons hsecond,
      String.ofList_toList]
    rfl
  · by_cases hempty' : second = ""
    · subst hempty'
      rw [trimSlashes, hchars, String.toList_empty, trim_append_slash hfirst, String.ofList_toList]
      simp
    · have hne : first.toList ≠ [] := mt String.toList_eq_nil_iff.mp hempty
      have hne' : second.toList ≠ [] := mt String.toList_eq_nil_iff.mp hempty'
      have hboth := hfirst.append_slash hsecond hne hne'
      rw [trimSlashes_eq (by rwa [hchars])]
      simp [hempty, hempty']

end HttpRouting.Path
