import HttpRouting.Action
import HttpRouting.Proofs.Http.Splitting
import Mathlib.Data.List.DropRight

/-!
# What an action text stands for

A text of the form `Class@method` stands for a method of a controller, which is
registered or else has a dotted path.  Each way of failing has a condition of
its own, and the conditions leave nothing out.  A dotted path that begins with
a dot is no name of a module: with another dot behind it, it is refused for
being relative and not for leading nowhere.
-/

namespace HttpRouting

/-! ## Blanks around texts -/

theorem Text.trimBlankRight_eq_nil_iff {s : List Char} :
    trimBlankRight s = [] ↔ ∀ c ∈ s, isBlank c = true :=
  List.rdropWhile_eq_nil_iff

theorem Text.trimBlank_eq_nil_iff {s : List Char} :
    trimBlank s = [] ↔ ∀ c ∈ s, isBlank c = true := by
  have hfront : ∀ c ∈ s.takeWhile isBlank, isBlank c = true :=
    fun _ hc => List.mem_takeWhile_imp hc
  have hparts := @List.forall_mem_append _ (isBlank · = true) (s.takeWhile isBlank)
    (s.dropWhile isBlank)
  rw [List.takeWhile_append_dropWhile, and_iff_right hfront] at hparts
  rw [trimBlank, trimBlankRight_eq_nil_iff, trimBlankLeft, hparts]

namespace Action

/-! ## The two sides of an action text -/

/-- A text with one `@` and something on both of its sides, from which the blanks around it are taken. -/
def Reads (text : String) (path name : List Char) : Prop :=
  ∃ left right, text.toList = left ++ '@' :: right ∧ '@' ∉ left ∧ '@' ∉ right ∧
    (∃ c ∈ left, Text.isBlank c = false) ∧ (∃ c ∈ right, Text.isBlank c = false) ∧
    path = Text.trimBlank left ∧ name = Text.trimBlank right

theorem trimBlank_isEmpty_eq_false_iff {s : List Char} :
    (Text.trimBlank s).isEmpty = false ↔ ∃ c ∈ s, Text.isBlank c = false := by
  rw [List.isEmpty_eq_false_iff, ne_eq, Text.trimBlank_eq_nil_iff]
  simp

theorem split?_eq_some_iff {text : String} {path name : List Char} :
    split? text.toList = some (path, name) ↔ Reads text path name := by
  rw [split?]
  constructor
  · intro h
    split at h
    next left right hsplit =>
      obtain ⟨htext, hleft, hright⟩ := Http.splitOn_eq_pair_iff.mp hsplit
      dsimp only at h
      split at h
      next => simp at h
      next hempty =>
        rw [Bool.or_eq_true, not_or, Bool.not_eq_true, Bool.not_eq_true,
          trimBlank_isEmpty_eq_false_iff, trimBlank_isEmpty_eq_false_iff] at hempty
        simp only [Option.some.injEq, Prod.mk.injEq] at h
        exact ⟨left, right, htext, hleft, hright, hempty.1, hempty.2, h.1.symm, h.2.symm⟩
    next => simp at h
  · rintro ⟨left, right, htext, hleft, hright, hpath, hname, rfl, rfl⟩
    rw [← trimBlank_isEmpty_eq_false_iff] at hpath hname
    simp [Http.splitOn_eq_pair_iff.mpr ⟨htext, hleft, hright⟩, hpath, hname]

theorem split?_eq_none_iff {text : String} :
    split? text.toList = none ↔ ¬ ∃ path name, Reads text path name := by
  simp only [← split?_eq_some_iff, Option.eq_none_iff_forall_not_mem, Option.mem_def, Prod.forall,
    not_exists]

/-! ## Dotted paths -/

/-- The path of a class in a module that can be imported, whose own name is not relative. -/
def IsDottedPath (modules : Modules) (path : List Char) (c : Controller) : Prop :=
  ∃ moduleName className members, path = moduleName ++ '.' :: className ∧ '.' ∉ className ∧
    moduleName ≠ [] ∧ moduleName.head? ≠ some '.' ∧
    modules.find? (.ofList moduleName) = some members ∧
    members.find? (.ofList className) = some (.controller c)

/-- A dot in front, and another one somewhere behind it. -/
def IsRelativePath (path : List Char) : Prop := ∃ rest, path = '.' :: rest ∧ '.' ∈ rest

theorem exists_lastDot {path : List Char} (h : '.' ∈ path) :
    ∃ front last, path = front ++ '.' :: last ∧ '.' ∉ last := by
  obtain ⟨last, front, hreverse, hfree⟩ := List.eq_append_cons_of_mem (List.mem_reverse.mpr h)
  refine ⟨front.reverse, last.reverse, ?_, by simpa using hfree⟩
  rw [← List.reverse_inj, hreverse]
  simp

theorem splitLastDot_of_not_mem {path : List Char} (h : '.' ∉ path) : splitLastDot path = ([], path) := by
  rw [splitLastDot, if_neg (by simpa using h)]

theorem splitLastDot_append (front : List Char) {last : List Char} (h : '.' ∉ last) :
    splitLastDot (front ++ '.' :: last) = (front, last) := by
  have hlast : ((front ++ '.' :: last).reverse.takeWhile (· != '.')).reverse = last := by
    have hkept : ∀ c ∈ last.reverse, (c != '.') = true := fun c hc =>
      bne_iff_ne.mpr fun heq => h (heq ▸ List.mem_reverse.mp hc)
    rw [List.reverse_append, List.reverse_cons, List.append_assoc, List.takeWhile_append_of_pos hkept]
    simp
  have hlength : (front ++ '.' :: last).length - last.length - 1 = front.length := by
    rw [List.length_append, List.length_cons]
    omega
  rw [splitLastDot, hlast, if_pos (by simp), hlength, List.take_left]

/-! ## Finding controllers -/

section

variable {modules : Modules} {path front last : List Char} {c : Controller}

theorem findInModules_of_not_mem (modules : Modules) (h : '.' ∉ path) :
    findInModules modules path = .error (.controllerNotFound (.ofList path)) := by
  simp only [findInModules, splitLastDot_of_not_mem h]
  rfl

theorem isRelativePath_append (h : '.' ∉ last) :
    IsRelativePath (front ++ '.' :: last) ↔ front.head? = some '.' := by
  constructor
  · rintro ⟨rest, heq, hdot⟩
    cases front with
    | nil => exact absurd hdot (by rwa [← (List.cons.inj heq).2])
    | cons c front => exact congrArg some (List.cons.inj heq).1
  · intro hhead
    obtain ⟨more, rfl⟩ := List.head?_eq_some_iff.mp hhead
    exact ⟨more ++ '.' :: last, rfl, by simp⟩

theorem findInModules_of_isRelativePath (modules : Modules) (h : IsRelativePath path) :
    findInModules modules path = .error (.relativePath (.ofList path)) := by
  have hdot : '.' ∈ path := by
    obtain ⟨rest, rfl, -⟩ := h
    simp
  obtain ⟨front, last, rfl, hlast⟩ := exists_lastDot hdot
  obtain ⟨more, rfl⟩ := List.head?_eq_some_iff.mp ((isRelativePath_append hlast).mp h)
  simp only [findInModules, splitLastDot_append _ hlast]
  rfl

theorem findInModules_of_isDottedPath (h : IsDottedPath modules path c) :
    findInModules modules path = .ok c := by
  obtain ⟨front, last, members, rfl, hlast, hne, hhead, hmembers, hc⟩ := h
  simp only [findInModules, splitLastDot_append _ hlast, hmembers, Option.bind_some, hc]
  rw [if_neg (by simpa using hne), if_neg hhead]

theorem findInModules_of_not_isDottedPath (hrelative : ¬ IsRelativePath path)
    (h : ∀ c, ¬ IsDottedPath modules path c) :
    findInModules modules path = .error (.controllerNotFound (.ofList path)) := by
  by_cases hdot : '.' ∈ path
  · obtain ⟨front, last, rfl, hlast⟩ := exists_lastDot hdot
    rw [isRelativePath_append hlast] at hrelative
    simp only [findInModules, splitLastDot_append _ hlast]
    split
    next => rfl
    next hne =>
      split
      next c hc =>
        obtain ⟨members, hmembers, hmember⟩ := Option.bind_eq_some_iff.mp hc
        exact absurd ⟨front, last, members, rfl, hlast, by simpa using hne, hrelative, hmembers, hmember⟩
          (h c)
      next => rfl
  · exact findInModules_of_not_mem modules hdot

theorem not_isDottedPath_of_isRelativePath (h : IsRelativePath path) :
    ¬ IsDottedPath modules path c := by
  intro hdotted
  have hok := findInModules_of_isDottedPath hdotted
  rw [findInModules_of_isRelativePath modules h] at hok
  simp at hok

end

/-! ## Resolving -/

/-- What a path leads to: the class registered under it, or else the one it is the dotted path of. -/
def Finds (modules : Modules) (registry : Option Registry) (path : List Char) (c : Controller) : Prop :=
  match registry.bind (·.find? (.ofList path)) with
  | some entry => entry = .controller c
  | none => IsDottedPath modules path c

/-- A relative path that no class is registered under. -/
def IsLost (registry : Option Registry) (path : List Char) : Prop :=
  registry.bind (·.find? (.ofList path)) = none ∧ IsRelativePath path

section

variable {modules : Modules} {registry : Option Registry} {text : String} {path name : List Char}
  {c : Controller}

theorem Finds.not_isLost (h : Finds modules registry path c) : ¬ IsLost registry path := by
  rintro ⟨hentry, hrelative⟩
  rw [Finds, hentry] at h
  exact not_isDottedPath_of_isRelativePath hrelative h

theorem resolve_of_not_reads (h : ¬ ∃ path name, Reads text path name) :
    resolve modules registry (.value (.text text)) = .error (.unreadable text) := by
  rw [resolve, ofText, split?_eq_none_iff.mpr h]

theorem resolve_of_registered (hreads : Reads text path name) {entry : Registered}
    (hentry : registry.bind (·.find? (.ofList path)) = some entry) :
    resolve modules registry (.value (.text text)) =
      ofRegistered (.ofList path) (.ofList name) entry := by
  simp only [resolve, ofText, split?_eq_some_iff.mpr hreads, hentry]

theorem resolve_of_not_registered (hreads : Reads text path name)
    (hentry : registry.bind (·.find? (.ofList path)) = none) :
    resolve modules registry (.value (.text text)) = (findInModules modules path).bind fun c =>
      ofRegistered (.ofList path) (.ofList name) (.controller c) := by
  simp only [resolve, ofText, split?_eq_some_iff.mpr hreads, hentry]
  rfl

theorem resolve_of_isLost (hreads : Reads text path name) (h : IsLost registry path) :
    resolve modules registry (.value (.text text)) = .error (.relativePath (.ofList path)) := by
  rw [resolve_of_not_registered hreads h.1, findInModules_of_isRelativePath modules h.2]
  rfl

theorem resolve_of_finds (hreads : Reads text path name) (h : Finds modules registry path c) :
    resolve modules registry (.value (.text text)) =
      if c.offers (.ofList name) then .ok (.method c (.ofList name))
      else .error (.methodNotFound (.ofList path) (.ofList name)) := by
  cases hentry : registry.bind (·.find? (.ofList path)) with
  | some entry =>
      simp only [Finds, hentry] at h
      rw [resolve_of_registered hreads hentry, h]
      rfl
  | none =>
      simp only [Finds, hentry] at h
      rw [resolve_of_not_registered hreads hentry, findInModules_of_isDottedPath h]
      rfl

theorem resolve_of_not_finds
    (hclasses : ∀ r, registry = some r → ∀ name entry, r.find? name = some entry →
      ∃ c, entry = .controller c)
    (hreads : Reads text path name) (hlost : ¬ IsLost registry path)
    (h : ∀ c, ¬ Finds modules registry path c) :
    resolve modules registry (.value (.text text)) =
      .error (.controllerNotFound (.ofList path)) := by
  cases hentry : registry.bind (·.find? (.ofList path)) with
  | some entry =>
      obtain ⟨r, hr, hfind⟩ := Option.bind_eq_some_iff.mp hentry
      obtain ⟨c, hc⟩ := hclasses r hr _ entry hfind
      exact absurd (by simp only [Finds, hentry, hc]) (h c)
  | none =>
      have hrelative : ¬ IsRelativePath path := fun hrelative => hlost ⟨hentry, hrelative⟩
      simp only [Finds, hentry] at h
      rw [resolve_of_not_registered hreads hentry, findInModules_of_not_isDottedPath hrelative h]
      rfl

theorem resolve_cases (modules : Modules)
    (hclasses : ∀ r, registry = some r → ∀ name entry, r.find? name = some entry →
      ∃ c, entry = .controller c)
    (hreads : Reads text path name) :
    IsLost registry path ∧
        resolve modules registry (.value (.text text)) = .error (.relativePath (.ofList path)) ∨
      (¬ IsLost registry path ∧ ∀ c, ¬ Finds modules registry path c) ∧
        resolve modules registry (.value (.text text)) =
          .error (.controllerNotFound (.ofList path)) ∨
      ∃ c, Finds modules registry path c ∧
        resolve modules registry (.value (.text text)) =
          if c.offers (.ofList name) then .ok (.method c (.ofList name))
          else .error (.methodNotFound (.ofList path) (.ofList name)) := by
  by_cases hlost : IsLost registry path
  · exact .inl ⟨hlost, resolve_of_isLost hreads hlost⟩
  by_cases hfinds : ∃ c, Finds modules registry path c
  · obtain ⟨c, hc⟩ := hfinds
    exact .inr (.inr ⟨c, hc, resolve_of_finds hreads hc⟩)
  · have hnone := not_exists.mp hfinds
    exact .inr (.inl ⟨⟨hlost, hnone⟩, resolve_of_not_finds hclasses hreads hlost hnone⟩)

end

/--
What becomes of an action text when all that is registered are classes.  It
is unreadable exactly if it has not two sides, both not blank.  Otherwise its
path is lost, or leads to no class, or the class lacks the method, or the text
is resolved; each of these happens exactly under its own condition, and one of
them does.
-/
theorem action_text_resolves_or_fails {modules : Modules} {registry : Option Registry}
    (hclasses : ∀ r, registry = some r → ∀ name entry, r.find? name = some entry →
      ∃ c, entry = .controller c) (text : String) :
    (resolve modules registry (.value (.text text)) = .error (.unreadable text) ↔
      ¬ ∃ path name, Reads text path name) ∧
    ∀ path name, Reads text path name →
      (resolve modules registry (.value (.text text)) = .error (.relativePath (.ofList path)) ↔
        IsLost registry path) ∧
      (resolve modules registry (.value (.text text)) =
          .error (.controllerNotFound (.ofList path)) ↔
        ¬ IsLost registry path ∧ ∀ c, ¬ Finds modules registry path c) ∧
      ∀ c, Finds modules registry path c →
        (resolve modules registry (.value (.text text)) =
            .error (.methodNotFound (.ofList path) (.ofList name)) ↔
          c.offers (.ofList name) = false) ∧
        (resolve modules registry (.value (.text text)) = .ok (.method c (.ofList name)) ↔
          c.offers (.ofList name) = true) := by
  refine ⟨⟨?_, resolve_of_not_reads⟩, fun path name hreads => ⟨⟨fun h => ?_, resolve_of_isLost hreads⟩,
    ⟨fun h => ?_, fun ⟨hlost, hnone⟩ => resolve_of_not_finds hclasses hreads hlost hnone⟩,
    fun c hc => ?_⟩⟩
  · rintro h ⟨path, name, hreads⟩
    rcases resolve_cases modules hclasses hreads with ⟨-, hresult⟩ | ⟨-, hresult⟩ | ⟨c, -, hresult⟩
    · simp [h] at hresult
    · simp [h] at hresult
    · rw [h] at hresult
      split at hresult <;> simp at hresult
  · rcases resolve_cases modules hclasses hreads with ⟨hlost, -⟩ | ⟨-, hresult⟩ | ⟨c, -, hresult⟩
    · exact hlost
    · simp [h] at hresult
    · rw [h] at hresult
      split at hresult <;> simp at hresult
  · rcases resolve_cases modules hclasses hreads with ⟨-, hresult⟩ | ⟨hnone, -⟩ | ⟨c, -, hresult⟩
    · simp [h] at hresult
    · exact hnone
    · rw [h] at hresult
      split at hresult <;> simp at hresult
  · rw [resolve_of_finds hreads hc]
    cases c.offers (.ofList name) <;> simp

/-- What is registered goes before what a module has, and is asked for its own methods. -/
theorem action_text_resolves_or_fails_registered :
    let pages : Controller := ⟨"Pages", ["index"], none⟩
    let other : Controller := ⟨"Other", ["show"], none⟩
    let modules : Modules := .ofList [("site", .ofList [("Pages", .controller other)])]
    let registry := some (Registry.ofList [("site.Pages", .controller pages)])
    resolve modules registry (.value (.text " site.Pages @index")) = .ok (.method pages "index") ∧
      resolve modules registry (.value (.text "site.Pages@show")) =
        .error (.methodNotFound "site.Pages" "show") ∧
      resolve modules none (.value (.text "site.Pages@show")) = .ok (.method other "show") := by
  intro pages other modules registry
  have hclasses : ∀ r, registry = some r → ∀ name entry, r.find? name = some entry →
      ∃ c, entry = .controller c := by
    intro r hr name entry hfind
    obtain rfl := Option.some.inj hr
    simp only [Registry.find?, Registry.ofList, Pairs.find?, Pairs.ofList, Pairs.insertAll,
      List.foldl_cons, List.foldl_nil, Pairs.insert, Pairs.valueOf?_insertEntry] at hfind
    split at hfind
    · exact ⟨pages, (Option.some.inj hfind).symm⟩
    · simp [EmptyCollection.emptyCollection, Pairs.valueOf?] at hfind
  have hindex : Reads " site.Pages @index" "site.Pages".toList "index".toList :=
    split?_eq_some_iff.mp (by decide +kernel)
  have hshow : Reads "site.Pages@show" "site.Pages".toList "show".toList :=
    split?_eq_some_iff.mp (by decide +kernel)
  have hpages : Finds modules registry "site.Pages".toList pages := by
    rfl
  have hother : Finds modules none "site.Pages".toList other :=
    ⟨"site".toList, "Pages".toList, _, rfl, by decide, by decide, by decide, rfl, rfl⟩
  refine ⟨?_, ?_, ?_⟩
  · exact (((action_text_resolves_or_fails hclasses _).2 _ _ hindex).2.2 _ hpages).2.mpr (by decide)
  · exact (((action_text_resolves_or_fails hclasses _).2 _ _ hshow).2.2 _ hpages).1.mpr (by decide)
  · exact (((action_text_resolves_or_fails (by simp) _).2 _ _ hshow).2.2 _ hother).2.mpr (by decide)

/-- No class is found by a relative path, and yet the error is that it is relative to nothing. -/
theorem action_text_relative_path :
    ¬ ∀ modules registry text path name, Reads text path name →
      (∀ c, ¬ Finds modules registry path c) →
        resolve modules registry (.value (.text text)) =
          .error (.controllerNotFound (.ofList path)) := by
  intro hclaim
  have hrelative : IsLost none ".x.Y".toList := ⟨rfl, "x.Y".toList, rfl, by decide⟩
  have hreads : Reads ".x.Y@m" ".x.Y".toList "m".toList := split?_eq_some_iff.mp (by decide +kernel)
  have hresult := hclaim ∅ none ".x.Y@m" ".x.Y".toList "m".toList hreads
    fun _ hfinds => hfinds.not_isLost hrelative
  simp [resolve_of_isLost hreads hrelative] at hresult

end Action

end HttpRouting
