import HttpRouting.Proofs.Router.Serving
import HttpRouting.Proofs.Segment.Slots

/-!
# Values recovered from URLs

A URL of a route whose template is made of segments can be taken apart in one
way only, provided that no constraint on it matches a slash.  So when the route
is found by its own URL, its parameters are the values that were given.
-/

namespace HttpRouting.Router

open Engine (Slot)

/--
With plain constraints, the URL of a route made of segments is found, and what
is found are the values given for its tokens, unless an earlier route takes it.
Only the last segment may be optional, and not if it stands alone.
-/
theorem written_values_are_recovered {r : Router} (hreachable : r.Reachable) (hbuilds : r.Builds)
    (hplain : ∀ other ∈ r.routes, other.HasPlainConstraints) {place : Nat} {name : String}
    {route : Route} (hlast : r.LastNamed place name route) (hbracket : '[' ∉ route.uri.toList)
    {segments : List Segment} (hsegments : Segment.ofTemplate? route.uri.toList = some segments)
    (hoptional : ∀ s ∈ segments.dropLast, s.isOptional = false)
    (hsingle : segments.length = 1 → ∀ s ∈ segments, s.isOptional = false)
    (hslash : ∀ entry ∈ route.constraints.entries, ∀ subject,
      Regex.Expression.Accepts entry.2 subject → '/' ∉ subject)
    {params : Pairs Value} {u : String} (hurl : (r.url name params).result = .ok u)
    {method : String} (hmethod : method ∈ route.methods) :
    ∃ found, (r.find method u).result = .ok (some found) ∧ found.route ≤ place ∧
      (found.route = place → ∀ key, found.params.item? key =
        if key ∈ segments.filterMap Segment.name? then
          (Engine.givenValue? params key).map Value.plain
        else none) := by
  obtain ⟨t, hbuild⟩ := hbuilds
  have hmem := List.mem_of_getElem? hlast.stands
  have hconsistent := hreachable.isConsistent
  obtain ⟨earlier, first, last, f, hserves⟩ := hconsistent.exists_serves hbuild hlast.stands
  obtain ⟨-, text, htext, rfl⟩ :=
    (url_eq_ok_iff hbuild hserves.basePath hlast (hserves.named name hlast) params u).mp hurl
  have htypes := hserves.plain fun other hother => hplain other (List.mem_of_mem_take hother)
  obtain ⟨slots, hslots, hdecides, hspells⟩ := hserves.spells_canonical htypes htext
  obtain rfl : slots = route.canonicalSlots := by
    have hcanonical := hserves.resolve?_canonical ⟨hconsistent.trimmed route hmem, hbracket⟩
    exact Option.some.inj (hslots.symm.trans hcanonical)
  obtain ⟨found, hfound, hroute⟩ := hserves.find_of_spells hbuild htypes hdecides hspells hmethod
  refine ⟨found, hfound, ?_⟩
  rcases hroute with hearlier | ⟨values, hvalues, rfl⟩
  · exact ⟨Nat.le_of_lt hearlier, fun hplace => absurd hplace (Nat.ne_of_lt hearlier)⟩
  · refine ⟨Nat.le_refl _, fun _ key => ?_⟩
    have hdelimited :=
      Route.delimited_of_segments hsegments hoptional hsingle (hplain route hmem) hslash
    rw [hdelimited.values_unique hvalues hspells, Params.item?, Slot.find?_captured,
      Route.params_of_segments hsegments, Engine.givenText?, Option.map_map]
    have hplainText : String.ofList ∘ (fun value : Value => value.plain.toList) = Value.plain := by
      funext value
      exact String.ofList_toList
    rw [hplainText]

theorem written_values_are_recovered_first_page :
    let r := single "users/{id}/posts/{page?}" "posts" "id" "[0-9]+"
    (r.url "posts" ⟨[("id", .int 7), ("sort", .text "asc")]⟩).result = .ok "/users/7/posts/" ∧
      ∃ found, (r.find "GET" "/users/7/posts/").result = .ok (some found) ∧
        found.params.item? "id" = some "7" ∧ found.params.item? "page" = none ∧
        found.params.item? "sort" = none := by
  intro r
  have hplain : Regex.Expression.IsPlainText "[0-9]+" := by decide +kernel
  have hread : Regex.Expression.readPlain? "[0-9]+".toList =
      some ⟨.loop .greedy 1 none (.chars false [.range '0'.toNat '9'.toNat]), {}, [], 1⟩ := by
    decide +kernel
  have hslash : ∀ entry ∈ (singleRoute "users/{id}/posts/{page?}" "posts" "id" "[0-9]+").constraints.entries,
      ∀ subject, Regex.Expression.Accepts entry.2 subject → '/' ∉ subject := by
    refine List.forall_mem_singleton.mpr fun subject haccepts => ?_
    exact Slot.isSlashFree_of_readPlain? hread rfl (by decide) subject
      ((Engine.accepts_iff hplain).mp haccepts)
  have hurl : (r.url "posts" ⟨[("id", .int 7), ("sort", .text "asc")]⟩).result =
      .ok "/users/7/posts/" := by decide +kernel
  obtain ⟨found, hfound, hplace, hitems⟩ := written_values_are_recovered (reachable_single ..)
    (builds_of_toBool (by decide +kernel)) (hasPlainConstraints_single hplain _ _ _)
    (lastNamed_single ..) (by decide)
    (show Segment.ofTemplate? _ = some [.literal "users".toList, .token ⟨"id", false⟩,
      .literal "posts".toList, .token ⟨"page", true⟩] by decide)
    (by decide) (by decide) hslash hurl (mem_methods_singleRoute ..)
  have hitem := hitems (Nat.le_zero.mp hplace)
  exact ⟨hurl, found, hfound, hitem "id", hitem "page", hitem "sort"⟩

end HttpRouting.Router
