import HttpRouting.Proofs.Engine.Delimited
import HttpRouting.Proofs.Router.Serving
import HttpRouting.Proofs.Template.Filling

/-!
# Found parameters write the path

With plain constraints and distinct names, what a request finds explains its
path: filling the template of the route with the parameters writes the path
again, each value fits on its own, and the URL of the route with these
parameters is the path up to one slash at the end.
-/

namespace HttpRouting

open Engine (Slot)
open Template (Token scan tokens)

namespace Route

/-- A template without brackets and without question marks behind braces, whose tokens differ in name. -/
structure IsUnambiguous (route : Route) : Prop where
  bracket : '[' ∉ route.uri.toList
  mark : ¬ ['}', '?'] <:+: route.uri.toList
  names : ((tokens (scan route.uri.toList)).map Token.name).Nodup

theorem IsUnambiguous.slots_eq {route : Route} (h : route.IsUnambiguous) :
    route.slots = Template.slots route.constraints (scan route.uri.toList) := by
  rw [slots, Template.absorbMarks_scan h.mark]

end Route

namespace Router

theorem checkConstraints_append {constraints : Pairs String} (name : String)
    {entries : List (String × Value)}
    (h : ∀ entry ∈ entries, ∀ regex, constraints.find? entry.1 = some regex → regex.isEmpty = false →
      entry.2.isNull = false → Engine.matchesType regex entry.2.plain = .ok true)
    (rest : List (String × Value)) :
    checkConstraints constraints name (entries ++ rest) = checkConstraints constraints name rest := by
  induction entries with
  | nil => rfl
  | cons entry others ih =>
      rw [List.forall_mem_cons] at h
      rw [List.cons_append, checkConstraints]
      split
      next => exact ih h.2
      next regex hregex =>
        obtain ⟨hfound, hchecked⟩ := Option.filter_eq_some_iff.mp hregex
        rw [Bool.and_eq_true, Bool.not_eq_true', Bool.not_eq_true'] at hchecked
        rw [h.1 regex hfound hchecked.1 hchecked.2]
        exact ih h.2

theorem checkConstraints_eq_ok {constraints : Pairs String} (name : String)
    {entries : List (String × Value)}
    (h : ∀ entry ∈ entries, ∀ regex, constraints.find? entry.1 = some regex → regex.isEmpty = false →
      entry.2.isNull = false → Engine.matchesType regex entry.2.plain = .ok true) :
    checkConstraints constraints name entries = .ok () := by
  rw [← List.append_nil entries, checkConstraints_append name h, checkConstraints]

end Router

/-! ## Texts that fill a route -/

/-- Texts for the tokens of a route with which its template may be filled. -/
structure Route.Fits (route : Route) (texts : String → Option (List Char)) : Prop where
  required : ∀ token ∈ tokens (scan route.uri.toList), texts token.name = none → token.optional = true
  word : ∀ token ∈ tokens (scan route.uri.toList), ∀ word, texts token.name = some word →
    word ∈ Slot.languageOf (Template.Compiler.typeOf route.constraints token)

theorem Route.fits_iff_admits {route : Route} (h : route.IsUnambiguous)
    {texts : String → Option (List Char)} :
    route.Fits texts ↔ ∀ slot ∈ route.slots, slot.Admits texts := by
  rw [h.slots_eq, Template.forall_mem_slots_iff (fun _ => trivial) fun _ _ _ _ => Iff.rfl]
  constructor
  · intro hfits token htoken
    cases htext : texts token.name with
    | none => exact hfits.required token htoken htext
    | some word => exact hfits.word token htoken word htext
  · intro hadmits
    refine ⟨fun token htoken hnone => ?_, fun token htoken word hword => ?_⟩
    · simpa only [hnone] using hadmits token htoken
    · simpa only [hword] using hadmits token htoken

theorem Route.typeOf_token (route : Route) (token : Token) :
    Template.Compiler.typeOf route.constraints token =
      ((route.constraints.find? token.name).filter fun regex => !regex.isEmpty).getD
        Template.Compiler.anySegment := rfl

theorem Route.fits_of_spells {route : Route} (h : route.IsUnambiguous) {slots : List Slot}
    (hslots : slots = route.canonicalSlots ∨ slots = route.slots)
    {values : List (Option (List Char))} {text : List Char}
    (hspells : Slot.Spells slots values text) :
    let p := Pairs.ofList (Slot.captured slots values)
    let texts := fun key => (p.find? key).map String.toList
    route.Fits texts ∧
      (text = Template.fill texts (scan route.uri.toList) ∨
        text = Template.withFinalSlash route.uri.toList
          (Template.fill texts (scan route.uri.toList))) ∧
      ∀ entry ∈ p.entries, (∃ token ∈ tokens (scan route.uri.toList), token.name = entry.1) ∧
        texts entry.1 = some entry.2.toList := by
  intro p texts
  have hparams : Slot.params slots = (tokens (scan route.uri.toList)).map Token.name := by
    rw [← Template.params_slots route.constraints, ← h.slots_eq]
    rcases hslots with rfl | rfl
    · exact route.params_canonicalSlots
    · rfl
  obtain ⟨hadmits, htext, hentries⟩ := hspells.fill_captured (by rw [hparams]; exact h.names)
  have hfill := Template.fill_slots texts route.constraints (scan route.uri.toList)
  rw [← h.slots_eq] at hfill
  refine ⟨(Route.fits_iff_admits h).mpr ?_, ?_, fun entry hentry => ?_⟩
  · rcases hslots with rfl | rfl
    · exact (route.admits_canonicalSlots _).mp hadmits
    · exact hadmits
  · rcases hslots with rfl | rfl
    · rw [route.fill_canonicalSlots, hfill] at htext
      exact .inr htext
    · rw [hfill] at htext
      exact .inl htext
  · obtain ⟨hparam, hvalue⟩ := hentries entry hentry
    rw [hparams] at hparam
    exact ⟨List.mem_map.mp hparam, hvalue⟩

def Found.text (found : Found) (param : String) : Option (List Char) :=
  (found.params.item? param).map String.toList

namespace Router

variable {r : Router} {t : Table}

theorem exists_fits_of_find (hreachable : r.Reachable) (hbuild : r.build.result = .ok t)
    (huris : ∀ route ∈ r.routes, route.IsUnambiguous)
    (hplain : ∀ route ∈ r.routes, route.HasPlainConstraints)
    {method : String} {rest : List Char} {found : Found}
    (hfound : (r.find method (r.basePath ++ .ofList rest)).result = .ok (some found)) :
    ∃ route, r.routes[found.route]? = some route ∧ route.Fits found.text ∧
      (rest = Template.fill found.text (scan route.uri.toList) ∨
        rest = Template.withFinalSlash route.uri.toList
          (Template.fill found.text (scan route.uri.toList))) ∧
      ∀ entry ∈ found.params.values.entries,
        (∃ token ∈ tokens (scan route.uri.toList), token.name = entry.1) ∧
          found.text entry.1 = some entry.2.toList := by
  have hconsistent := hreachable.isConsistent
  obtain ⟨hit, hhit, rfl⟩ :=
    exists_hit_of_find hbuild (hconsistent.basePath_engine hbuild) hfound
  obtain ⟨entry, hentry, cursor, hfits, hof⟩ := Engine.exists_entry_of_firstHit hhit
  obtain ⟨route, hroute⟩ := hconsistent.exists_route hbuild hentry
  obtain ⟨earlier, first, last, f, hserves⟩ := hconsistent.exists_serves hbuild hroute
  have hmem := List.mem_of_getElem? hroute
  obtain ⟨slots, hslots, hdecides⟩ := hserves.exists_slots
    (hserves.plain fun other hother => hplain other (List.mem_of_mem_take hother))
    ⟨hconsistent.trimmed route hmem, (huris route hmem).bracket⟩ hentry rfl
  obtain ⟨values, hspells, hown⟩ := hdecides.hit hfits
  obtain rfl : _ = hit := Except.ok.inj (hown.symm.trans hof)
  exact ⟨route, hroute, Route.fits_of_spells (huris route hmem) hslots hspells⟩

theorem url_of_fits (hreachable : r.Reachable) (hbuild : r.build.result = .ok t) {place : Nat}
    {name : String} {route : Route} (hlast : r.LastNamed place name route)
    (hunambiguous : route.IsUnambiguous)
    (hplain : ∀ other ∈ r.routes.take (place + 1), other.HasPlainConstraints)
    {params : Pairs String} (hfits : route.Fits fun key => (params.find? key).map String.toList)
    (hentries : ∀ entry ∈ params.entries,
      (∃ token ∈ tokens (scan route.uri.toList), token.name = entry.1) ∧
        params.find? entry.1 = some entry.2) :
    (r.url name (params.map .text)).result =
      .ok (r.basePath ++ .ofList (Template.withFinalSlash route.uri.toList
        (Template.fill (fun key => (params.find? key).map String.toList)
          (scan route.uri.toList)))) := by
  have hmem := List.mem_of_getElem? hlast.stands
  have hconsistent := hreachable.isConsistent
  obtain ⟨earlier, first, last, f, hserves⟩ := hconsistent.exists_serves hbuild hlast.stands
  have htypes := hserves.plain hplain
  have hslots := hserves.resolve?_canonical ⟨hconsistent.trimmed route hmem, hunambiguous.bracket⟩
  rw [url_eq_ok_iff hbuild hserves.basePath hlast (hserves.named name hlast)]
  refine ⟨checkConstraints_eq_ok name fun entry hentry regex hregex hnonempty _ => ?_, _, ?_, rfl⟩
  · obtain ⟨own, hown, rfl⟩ := List.mem_map.mp hentry
    obtain ⟨⟨token, htoken, hname⟩, hfound⟩ := hentries own hown
    simp only at hregex ⊢
    have hword := hfits.word token htoken own.2.toList (by rw [hname, hfound]; rfl)
    rw [Route.typeOf_token, hname, hregex, Option.filter_some, hnonempty] at hword
    have hmine : route.HasPlainConstraints := by
      refine hplain route ?_
      obtain ⟨before, after, -, -, htake⟩ := exists_split hlast.stands
      rw [← htake]
      exact List.mem_append_right _ List.mem_cons_self
    obtain ⟨answer, hanswer, hiff⟩ :=
      Engine.matchesType_of_isPlain (hmine _ (Pairs.mem_of_find? hregex)) own.2
    rw [show Value.plain (.text own.2) = own.2 from rfl, hanswer, hiff.mpr hword]
  · rw [Engine.fillPieces_eq_ok_iff (Engine.resolve?_of_extends hserves.stands.types hslots)
      (htypes.regexes hslots), Slot.spells_valuesOf_iff, Engine.givenText?_map_text,
      route.admits_canonicalSlots, route.fill_canonicalSlots, hunambiguous.slots_eq,
      Template.fill_slots]
    rw [Route.fits_iff_admits hunambiguous, hunambiguous.slots_eq] at hfits
    exact ⟨hfits, rfl⟩

/--
Finding is sound, and writing a URL inverts it.  The first two parts say that
each value fits its constraint alone, or is a segment, and that only optional
tokens have no value; the third that the path is the filled template, with or
without a slash at the end; and the last that the URL is the path itself or the
path with this slash.
-/
theorem found_params_write_path (hreachable : r.Reachable) (hbuilds : r.Builds)
    (huris : ∀ route ∈ r.routes, route.IsUnambiguous)
    (hplain : ∀ route ∈ r.routes, route.HasPlainConstraints)
    {method : String} {rest : List Char} {found : Found}
    (hfound : (r.find method (r.basePath ++ .ofList rest)).result = .ok (some found)) :
    ∃ route, r.routes[found.route]? = some route ∧
      (∀ entry ∈ found.params.values.entries,
        (∃ token ∈ tokens (scan route.uri.toList), token.name = entry.1) ∧
        match (route.constraints.find? entry.1).filter fun regex => !regex.isEmpty with
        | some regex => Regex.Expression.Accepts regex entry.2.toList
        | none => entry.2 ≠ "" ∧ '/' ∉ entry.2.toList) ∧
      (∀ token ∈ tokens (scan route.uri.toList), found.params.item? token.name = none →
        token.optional = true) ∧
      (rest = Template.fill found.text (scan route.uri.toList) ∨
        rest = Template.fill found.text (scan route.uri.toList) ++ ['/']) ∧
      ∀ name, r.LastNamed found.route name route →
        ∃ u, (r.url name (found.params.values.map .text)).result = .ok u ∧
          (u = r.basePath ++ .ofList rest ∨ u = r.basePath ++ .ofList rest ++ "/") := by
  obtain ⟨t, hbuild⟩ := hbuilds
  obtain ⟨route, hroute, hfits, hrest, hentries⟩ :=
    exists_fits_of_find hreachable hbuild huris hplain hfound
  have hmem := List.mem_of_getElem? hroute
  refine ⟨route, hroute, fun entry hentry => ?_, fun token htoken hnone => ?_, ?_, fun name hlast => ?_⟩
  · obtain ⟨⟨token, htoken, hname⟩, hvalue⟩ := hentries entry hentry
    refine ⟨⟨token, htoken, hname⟩, ?_⟩
    have hword := hfits.word token htoken entry.2.toList (by rw [hname]; exact hvalue)
    rw [Route.typeOf_token, hname] at hword
    cases hconstraint : (route.constraints.find? entry.1).filter fun regex => !regex.isEmpty with
    | none =>
        rw [hconstraint] at hword
        obtain ⟨hne, hslash⟩ := Slot.mem_languageOf_anySegment.mp hword
        refine ⟨?_, hslash⟩
        rintro hempty
        exact hne (by rw [hempty]; rfl)
    | some regex =>
        rw [hconstraint] at hword
        obtain ⟨hregex, -⟩ := Option.filter_eq_some_iff.mp hconstraint
        have hown := hplain route hmem _ (Pairs.mem_of_find? hregex)
        exact (Engine.accepts_iff hown).mpr hword
  · refine hfits.required token htoken ?_
    rw [Found.text, hnone]
    rfl
  · exact Template.eq_or_eq_append_slash hrest
  · have hurl := url_of_fits hreachable hbuild hlast (huris route hmem)
      (fun other hother => hplain other (List.mem_of_mem_take hother)) hfits fun entry hentry => by
        obtain ⟨htoken, hvalue⟩ := hentries entry hentry
        refine ⟨htoken, ?_⟩
        obtain ⟨value, hfind, heq⟩ := Option.map_eq_some_iff.mp hvalue
        rw [← String.toList_inj.mp heq]
        exact hfind
    refine ⟨_, hurl, ?_⟩
    rw [show (fun key => (found.params.values.find? key).map String.toList) = found.text from rfl]
    rcases hrest with hbare | hcanonical
    · rw [← hbare, Template.withFinalSlash]
      split
      next => exact .inl rfl
      next =>
        refine .inr (String.toList_inj.mp ?_)
        simp
    · exact .inl (by rw [← hcanonical])

theorem found_params_write_path_without_slash :
    let r := single "posts/{id}.{form?}" "posts" "id" "[0-9]+"
    (r.find "GET" "/posts/12").result = .ok (some ⟨0, ⟨⟨[("id", "12")]⟩⟩⟩) ∧
      ∃ u, (r.url "posts" ⟨[("id", .text "12")]⟩).result = .ok u ∧
        (u = "/posts/12" ∨ u = "/posts/12/") := by
  intro r
  have hplain : Regex.Expression.IsPlainText "[0-9]+" := by decide +kernel
  have huris : ∀ route ∈ r.routes, route.IsUnambiguous := by
    refine List.forall_mem_singleton.mpr ⟨by decide, by decide, ?_⟩
    decide +kernel
  have hfind : (r.find "GET" (r.basePath ++ .ofList "posts/12".toList)).result =
      .ok (some ⟨0, ⟨⟨[("id", "12")]⟩⟩⟩) := by decide +kernel
  obtain ⟨route, hroute, -, -, -, hurl⟩ := found_params_write_path (reachable_single ..)
    (builds_of_toBool (by decide +kernel)) huris (hasPlainConstraints_single hplain _ _ _) hfind
  obtain rfl := Option.some.inj hroute
  exact ⟨hfind, hurl "posts" (lastNamed_single ..)⟩

end Router

end HttpRouting
