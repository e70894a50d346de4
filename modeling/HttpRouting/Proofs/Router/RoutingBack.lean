import HttpRouting.Proofs.Router.Serving

/-!
# Routing written URLs back

A URL that has been written for a route need not lead back to it: each value
has been matched with its constraint alone, and the constraint may behave
differently among the rest of the template.  With plain constraints it does
not, so the URL is found to belong to the route or to one before it.
-/

namespace HttpRouting

def Table.FitsUpTo (t : Table) (method : String) (rest : List Char) (place : Nat) : Prop :=
  ∃ entry ∈ t.engine.entries, entry.target ≤ place ∧
    ∃ cursor, entry.fits? (Text.upper method) rest = .ok (some cursor)

namespace Router

/-- A request finds the route at a place or one before it. -/
def FindsUpTo (r : Router) (method path : String) (place : Nat) : Prop :=
  ∃ found, (r.find method path).result = .ok (some found) ∧ found.route ≤ place

section

variable {r : Router} {t : Table} (hbuild : r.build.result = .ok t) {place : Nat} {route : Route}
  {earlier : Engine Nat} {first last : List (Engine.Entry Nat)} {f : Table.Forms}
  (h : r.Serves t place route earlier first last f) (method : String) (rest : List Char)

include hbuild h

theorem findsUpTo_of_firstHit {hit : Engine.Hit Nat}
    (hhit : Engine.firstHit (Text.upper method) rest earlier.entries = .ok (some hit)) :
    r.FindsUpTo method (r.basePath ++ .ofList rest) place := by
  obtain ⟨entry, hentry, cursor, -, hof⟩ := Engine.exists_entry_of_firstHit hhit
  refine ⟨⟨hit.target, ⟨hit.params⟩⟩, ?_, ?_⟩
  · rw [find_below hbuild h.basePath, h.stands.entries, ← h.stands.registered,
      Engine.firstHit_append_of_some hhit]
    rfl
  · rw [Engine.target_of_hit hof]
    exact h.target_le hentry

theorem findsUpTo_iff :
    r.FindsUpTo method (r.basePath ++ .ofList rest) place ↔
      (∃ answer, (r.find method (r.basePath ++ .ofList rest)).result = .ok answer) ∧
        t.FitsUpTo method rest place := by
  constructor
  · rintro ⟨found, hfound, hplace⟩
    refine ⟨⟨_, hfound⟩, ?_⟩
    obtain ⟨hit, hhit, rfl⟩ := exists_hit_of_find hbuild h.basePath hfound
    obtain ⟨entry, hentry, cursor, hfits, hof⟩ := Engine.exists_entry_of_firstHit hhit
    refine ⟨entry, hentry, ?_, cursor, hfits⟩
    rw [← Engine.target_of_hit hof]
    exact hplace
  · rintro ⟨⟨answer, hanswer⟩, entry, hentry, htarget, cursor, hfits⟩
    cases hhit : Engine.firstHit (Text.upper method) rest earlier.entries with
    | error error =>
        rw [find_below hbuild h.basePath, h.stands.entries, ← h.stands.registered,
          Engine.firstHit_append_of_error hhit] at hanswer
        simp [Except.map, Except.mapError] at hanswer
    | ok hit =>
        cases hit with
        | none =>
            have hnone := Engine.fits?_of_firstHit_eq_none hhit (h.mem_earlier hentry htarget)
            simp [hfits] at hnone
        | some hit => exact findsUpTo_of_firstHit hbuild h method rest hhit

end

/--
A URL that has been written for the last route with a name leads back to this
route or one before it exactly if the request does not fail and the expression
of such a route matches the whole of what has been written.  If the
constraints up to this route are plain, both are always so.
-/
theorem written_url_routes_back {r : Router} (hreachable : r.Reachable) {t : Table}
    (hbuild : r.build.result = .ok t) {place : Nat} {name : String} {route : Route}
    (hlast : r.LastNamed place name route) {params : Pairs Value} {u : String}
    (hurl : (r.url name params).result = .ok u) {method : String} (hmethod : method ∈ route.methods) :
    (r.FindsUpTo method u place ↔
      (∃ answer, (r.find method u).result = .ok answer) ∧
        ∃ rest, u = r.basePath ++ .ofList rest ∧ t.FitsUpTo method rest place) ∧
    ((∀ other ∈ r.routes.take (place + 1), other.HasPlainConstraints) →
      r.FindsUpTo method u place) := by
  obtain ⟨earlier, first, last, f, hserves⟩ :=
    hreachable.isConsistent.exists_serves hbuild hlast.stands
  obtain ⟨-, text, htext, rfl⟩ :=
    (url_eq_ok_iff hbuild hserves.basePath hlast (hserves.named name hlast) params u).mp hurl
  refine ⟨?_, fun hplain => ?_⟩
  · rw [findsUpTo_iff hbuild hserves method text]
    refine and_congr_right fun _ => ⟨fun hfits => ⟨text, rfl, hfits⟩, ?_⟩
    rintro ⟨rest, hrest, hfits⟩
    have hchars := congrArg String.toList hrest
    simp only [String.toList_append, String.toList_ofList, List.append_cancel_left_eq] at hchars
    rwa [hchars]
  · have htypes := hserves.plain hplain
    obtain ⟨slots, -, hdecides, hspells⟩ := hserves.spells_canonical htypes htext
    obtain ⟨found, hfound, hroute⟩ :=
      hserves.find_of_spells hbuild htypes hdecides hspells hmethod
    refine ⟨found, hfound, ?_⟩
    rcases hroute with hearlier | ⟨values, -, rfl⟩
    · exact Nat.le_of_lt hearlier
    · exact Nat.le_refl _

theorem written_url_routes_back_digits :
    let r := single "posts/{id}" "posts" "id" "[0-9]+"
    (r.url "posts" ⟨[("id", .int 12)]⟩).result = .ok "/posts/12/" ∧ r.FindsUpTo "GET" "/posts/12/" 0 := by
  intro r
  obtain ⟨t, hbuild⟩ := builds_of_toBool (show r.build.result.toBool = true by decide +kernel)
  have hurl : (r.url "posts" ⟨[("id", .int 12)]⟩).result = .ok "/posts/12/" := by decide +kernel
  have hplain := hasPlainConstraints_single (show Regex.Expression.IsPlainText "[0-9]+" by decide +kernel)
    "posts/{id}" "posts" "id"
  refine ⟨hurl, (written_url_routes_back (reachable_single ..) hbuild (lastNamed_single ..) hurl
    (mem_methods_singleRoute ..)).2 fun other hother => ?_⟩
  exact hplain other (List.mem_of_mem_take hother)

/-- An end anchor fits a value alone, but not in front of the slash behind it. -/
theorem anchored_url_routes_nowhere :
    let r := single "posts/{id}" "posts" "id" "[0-9]+$"
    let route := singleRoute "posts/{id}" "posts" "id" "[0-9]+$"
    r.Reachable ∧ r.Builds ∧ r.LastNamed 0 "posts" route ∧ "GET" ∈ route.methods ∧
      (r.url "posts" ⟨[("id", .int 12)]⟩).result = .ok "/posts/12/" ∧
      (r.find "GET" "/posts/12/").result = .ok none ∧ ¬ r.FindsUpTo "GET" "/posts/12/" 0 := by
  intro r route
  have hfind : (r.find "GET" "/posts/12/").result = .ok none := by decide +kernel
  refine ⟨reachable_single .., builds_of_toBool (by decide +kernel), lastNamed_single ..,
    mem_methods_singleRoute .., by decide +kernel, hfind, ?_⟩
  rintro ⟨found, hfound, -⟩
  simp [hfind] at hfound

end Router

end HttpRouting
