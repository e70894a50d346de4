import HttpRouting.Proofs.Engine.Gaps
import HttpRouting.Proofs.Router.Requesting
import HttpRouting.Proofs.Router.Writing
import HttpRouting.Proofs.Template.FinalSlash

/-!
# Canonical URLs

A URL begins with the base path and ends with a slash.  When neither the base
path nor the template has an empty segment, one is written exactly if a token
that is left out, or a few of them, were all that stood between two slashes and
the first of these is not the token's own: it belongs to the base path, or
something else stands between it and the token.
-/

namespace HttpRouting

open Engine (Slot givenText?)
open HttpRouting.Path (HasEmptySegment)

namespace Template

/-! ## Templates without empty segments -/

def AreSpaced (pieces : List Piece) : Prop :=
  pieces.IsChain fun piece next => piece = .literal '/' → next ≠ .literal '/'

theorem head?_of_head?_absorbMarks {pieces : List Piece} {c : Char}
    (h : (absorbMarks pieces).head? = some (.literal c)) : pieces.head? = some (.literal c) := by
  fun_cases absorbMarks pieces with
  | case1 => exact h
  | case2 t c rest hmark => simp [absorbMarks, hmark] at h
  | case3 t c rest hmark => simp [absorbMarks, hmark] at h
  | case4 piece rest hrest => simpa [absorbMarks, hrest] using h

theorem AreSpaced.absorbMarks {pieces : List Piece} (h : AreSpaced pieces) :
    AreSpaced (absorbMarks pieces) := by
  fun_induction Template.absorbMarks pieces with
  | case1 => exact h
  | case2 t c rest hmark ih => exact (ih h.tail.tail).cons (by simp)
  | case3 t c rest hmark ih => exact (ih h.tail).cons (by simp)
  | case4 piece rest hrest ih =>
      refine (ih h.tail).cons ?_
      rintro _ hnext hpiece rfl
      exact (List.isChain_cons.mp h).1 _ (head?_of_head?_absorbMarks hnext) hpiece rfl

theorem head?_of_first?_slots {constraints : Pairs String} {pieces : List Piece} {slot : Slot}
    {c : Char} (hslot : (slots constraints pieces).head? = some slot) (hc : slot.first? = some c) :
    pieces.head? = some (.literal c) := by
  fun_cases slots constraints pieces with
  | case1 => simp [slots] at hslot
  | case2 d t rest hlead =>
      rw [slots_lead _ hlead, List.head?_cons, Option.some.injEq] at hslot
      subst hslot
      obtain rfl := Option.some.inj hc
      rfl
  | case3 d t rest hlead =>
      rw [slots_literal _ fun h => absurd h hlead, List.head?_cons, Option.some.injEq] at hslot
      subst hslot
      obtain rfl := Option.some.inj hc
      rfl
  | case4 d rest hrest =>
      rw [slots, List.head?_cons, Option.some.injEq] at hslot
      · subst hslot
        obtain rfl := Option.some.inj hc
        rfl
      · exact hrest
  | case5 t rest =>
      rw [slots_token, List.head?_cons, Option.some.injEq] at hslot
      subst hslot
      simp [Slot.first?] at hc

theorem AreSpaced.slots {pieces : List Piece} (h : AreSpaced pieces) (constraints : Pairs String) :
    Slot.AreSpaced (slots constraints pieces) := by
  fun_induction Template.slots constraints pieces with
  | case1 => exact .nil
  | case2 c t rest hlead ih => exact (ih h.tail.tail).cons (by simp)
  | case3 c t rest hlead ih =>
      refine List.IsChain.cons ((ih h.tail.tail).cons (by simp)) ?_
      rintro _ ⟨⟩ -
      simp [Slot.first?]
  | case4 c rest hrest ih =>
      refine (ih h.tail).cons ?_
      rintro next hnext ⟨⟩ hfirst
      exact (List.isChain_cons.mp h).1 _ (head?_of_first?_slots hnext hfirst) rfl rfl
  | case5 t rest ih => exact (ih h.tail).cons (by simp)

end Template

namespace Route

variable {route : Route}

def urlSlots (route : Route) : List Slot := .literal '/' :: route.canonicalSlots

theorem areSpaced_urlSlots (htrimmed : Path.IsTrimmed route.uri.toList)
    (h : ¬ HasEmptySegment route.uri.toList) : Slot.AreSpaced route.urlSlots := by
  have hpieces : Template.AreSpaced (.literal '/' :: Template.canonicalPieces route.uri.toList) := by
    rw [Template.canonicalPieces]
    split
    next => exact .singleton _
    next hne =>
      refine List.isChain_cons.mpr ⟨?_, List.isChain_append.mpr
        ⟨Template.isChain_literal_scan h, .singleton _, ?_⟩⟩
      · rintro _ hnext - rfl
        have hscan : Template.scan route.uri.toList ≠ [] := fun hnil =>
          hne (by simp [Template.scan_eq_nil.mp hnil])
        rw [Option.mem_def, List.head?_append_of_ne_nil _ hscan] at hnext
        have hslash := htrimmed.head '/' (Template.head?_of_head?_scan hnext)
        exact absurd hslash (by decide)
      · rintro _ hlast _ - rfl
        have hslash := htrimmed.last '/' (Template.getLast?_of_getLast?_scan hlast)
        exact absurd hslash (by decide)
  obtain ⟨hhead, htail⟩ := List.isChain_cons.mp hpieces
  have hslots := (Template.AreSpaced.absorbMarks htail).slots route.constraints
  refine List.isChain_cons.mpr ⟨?_, hslots⟩
  rintro slot hslot - hfirst
  have hpiece := Template.head?_of_head?_absorbMarks (Template.head?_of_first?_slots hslot hfirst)
  exact hhead _ hpiece rfl rfl

theorem areSegments_urlSlots {texts : String → Option (List Char)} (hfree : route.constraints = ∅)
    (hadmits : ∀ slot ∈ route.canonicalSlots, slot.Admits texts) :
    Slot.AreSegments texts route.urlSlots := by
  intro lead param regex optional hmem word hword
  have hhole := (List.mem_cons.mp hmem).resolve_left (by simp)
  obtain rfl : regex = Template.Compiler.anySegment := by
    refine (regex_of_mem_canonicalSlots hhole).resolve_right fun h => ?_
    simp [hfree] at h
  have hadmits := hadmits _ hhole
  rw [Slot.Admits, hword] at hadmits
  exact Slot.mem_languageOf_anySegment.mp hadmits

theorem getLast?_fill_urlSlots (route : Route) (texts : String → Option (List Char)) :
    (Slot.fill texts route.urlSlots).getLast? = some '/' := by
  rw [urlSlots, Slot.fill, route.fill_canonicalSlots, Template.withFinalSlash]
  split
  next hempty =>
    rw [slots_of_isEmpty hempty]
    rfl
  next => simp [List.getLast?_cons]

end Route

namespace Router

/--
A URL of a route without constraints begins with the base path and ends with a
slash.  It has an empty segment exactly if there is a gap, that is if no more
than tokens that are left out stand between a slash that none of them takes
away and the next slash that stays.  So it has none if every token that may be
left out stands behind a slash.
-/
theorem url_is_canonical {r : Router} (hreachable : r.Reachable) (hbuilds : r.Builds)
    (hbase : ¬ HasEmptySegment r.basePath.toList) {place : Nat} {name : String} {route : Route}
    (hlast : r.LastNamed place name route) (hfree : route.constraints = ∅)
    (hbracket : '[' ∉ route.uri.toList) (huri : ¬ HasEmptySegment route.uri.toList)
    {params : Pairs Value} {u : String} (hurl : (r.url name params).result = .ok u) :
    r.basePath.toList <+: u.toList ∧ u.toList.getLast? = some '/' ∧
      (HasEmptySegment u.toList ↔ Slot.HasGap (givenText? params) route.urlSlots) ∧
      ((∀ lead param regex, .hole lead param regex true ∈ route.canonicalSlots → lead = some '/') →
        ¬ HasEmptySegment u.toList) := by
  obtain ⟨t, hbuild⟩ := hbuilds
  have hconsistent := hreachable.isConsistent
  obtain ⟨earlier, first, last, f, hserves⟩ := hconsistent.exists_serves hbuild hlast.stands
  have htrimmed := hconsistent.trimmed route (List.mem_of_getElem? hlast.stands)
  have hplain : route.HasPlainConstraints := by
    rw [Route.HasPlainConstraints, hfree]
    exact fun _ hentry => absurd hentry (List.not_mem_nil)
  obtain ⟨text, rfl, hspells⟩ := hserves.exists_text hbuild ⟨htrimmed, hbracket⟩ hplain hlast hurl
  obtain ⟨hadmits, rfl⟩ := Slot.spells_valuesOf_iff.mp hspells
  have hspaced := Route.areSpaced_urlSlots htrimmed huri
  obtain ⟨front, hfront, -⟩ := hreachable.exists_front
  have hu : (r.basePath ++ .ofList (Slot.fill (givenText? params) route.canonicalSlots)).toList =
      front ++ Slot.fill (givenText? params) route.urlSlots := by
    simp [hfront, Route.urlSlots, Slot.fill]
  have hgap : HasEmptySegment (front ++ Slot.fill (givenText? params) route.urlSlots) ↔
      Slot.HasGap (givenText? params) route.urlSlots := by
    rw [← Slot.hasEmptySegment_fill_iff_hasGap (Route.areSegments_urlSlots hfree hadmits) hspaced]
    rw [hfront] at hbase
    exact (Path.hasEmptySegment_append_slash front _).trans (or_iff_right hbase)
  refine ⟨?_, ?_, ?_, fun hleads => ?_⟩
  · rw [String.toList_append]
    exact List.prefix_append ..
  · rw [hu, List.getLast?_append, route.getLast?_fill_urlSlots]
    rfl
  · rw [hu]
    exact hgap
  · rw [hu, hgap]
    refine Slot.not_hasGap hspaced (List.forall_mem_cons.mpr ⟨trivial, hadmits⟩) ?_
    exact fun lead param regex hmem =>
      hleads lead param regex ((List.mem_cons.mp hmem).resolve_left (by simp))

theorem url_is_canonical_posts :
    let r := unconstrained "posts/{page?}/{form?}" "posts"
    (r.url "posts" ∅).result = .ok "/posts/" ∧ ¬ HasEmptySegment "/posts/".toList := by
  intro r
  have hurl : (r.url "posts" ∅).result = .ok "/posts/" := by decide +kernel
  have hslots : (unconstrainedRoute "posts/{page?}/{form?}" "posts").canonicalSlots =
      "posts".toList.map .literal ++ [.hole (some '/') "page" "[^/]+" true,
        .hole (some '/') "form" "[^/]+" true, .literal '/'] := by decide +kernel
  have hleads (lead : Option Char) (param regex : String)
      (h : .hole lead param regex true ∈
        (unconstrainedRoute "posts/{page?}/{form?}" "posts").canonicalSlots) : lead = some '/' := by
    simp only [hslots, List.mem_append, List.mem_map, List.mem_cons, List.not_mem_nil, or_false,
      Slot.hole.injEq, reduceCtorEq, and_false, exists_false, false_or] at h
    rcases h with ⟨hlead, -⟩ | ⟨hlead, -⟩ <;> exact hlead
  obtain ⟨-, -, -, hcanonical⟩ := url_is_canonical (reachable_unconstrained ..)
    (builds_of_toBool (by decide +kernel)) (by decide +kernel) (lastNamed_unconstrained ..) rfl
    (by decide) (by decide) hurl
  exact ⟨hurl, hcanonical hleads⟩

/-- The slash before the token is the base path's, and it stays when the token is left out. -/
theorem url_has_empty_segment :
    let r := unconstrained "{lang?}/posts" "posts"
    let route := unconstrainedRoute "{lang?}/posts" "posts"
    r.Reachable ∧ r.Builds ∧ ¬ HasEmptySegment r.basePath.toList ∧ r.LastNamed 0 "posts" route ∧
      route.constraints = ∅ ∧ '[' ∉ route.uri.toList ∧ ¬ HasEmptySegment route.uri.toList ∧
      (r.url "posts" ∅).result = .ok "//posts/" ∧ HasEmptySegment "//posts/".toList := by
  intro r route
  exact ⟨reachable_unconstrained .., builds_of_toBool (by decide +kernel), by decide +kernel,
    lastNamed_unconstrained .., rfl, by decide, by decide, by decide +kernel, by decide⟩

end Router

end HttpRouting
