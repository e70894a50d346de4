import HttpRouting.Proofs.Router.BasePath
import HttpRouting.Proofs.Router.Lookup
import HttpRouting.Proofs.Table.FinalSlash

/-!
# The final slash of a path

With plain constraints that accept nothing but segments, a request finds the
same route and the same parameters whether or not there is a slash at the end
of its path.
-/

namespace HttpRouting.Router

open Engine (remainder?)
open Table (firstAnswer)

variable {r : Router}

theorem Reachable.remainder?_append_slash (h : r.Reachable) {path : String}
    (hpath : path.toList.getLast? ≠ some '/') :
    remainder? r.basePath.toList (path ++ "/").toList = remainder? r.basePath.toList path.toList ∨
      ∃ rest, rest ≠ [] ∧ rest.getLast? ≠ some '/' ∧
        remainder? r.basePath.toList path.toList = some rest ∧
        remainder? r.basePath.toList (path ++ "/").toList = some (rest ++ ['/']) := by
  obtain ⟨front, -, hfront, hremainder⟩ := h.exists_front
  have hclosed : (path ++ "/").toList = path.toList ++ ['/'] := String.toList_append
  cases hrest : remainder? r.basePath.toList path.toList with
  | none =>
      refine .inl (Option.eq_none_iff_forall_ne_some.mpr fun rest heq => ?_)
      rw [hclosed] at heq
      have hnot (rest : List Char) :
          ¬ (path.toList = front ++ '/' :: rest ∨ path.toList = front ∧ rest = []) := fun hbelow => by
        simp [(hremainder _ _).mpr hbelow] at hrest
      rcases (hremainder _ _).mp heq with hbelow | ⟨hitself, -⟩
      · rcases List.eq_nil_or_concat rest with rfl | ⟨init, c, rfl⟩
        · exact hnot [] (.inr ⟨List.append_cancel_right hbelow, rfl⟩)
        · rw [List.concat_eq_append, ← List.cons_append, ← List.append_assoc] at hbelow
          exact hnot init (.inl (List.append_inj_left' hbelow rfl))
      · exact hfront (by rw [← hitself]; simp)
  | some rest =>
      rcases (hremainder _ _).mp hrest with hbelow | ⟨hitself, rfl⟩
      · have hne : rest ≠ [] := by
          rintro rfl
          exact hpath (by rw [hbelow]; simp)
        refine .inr ⟨rest, hne, fun hlast => hpath ?_, rfl, ?_⟩
        · rw [hbelow, List.getLast?_append, List.getLast?_cons, hlast]
          rfl
        · exact (hremainder _ _).mpr (.inl (by rw [hclosed, hbelow]; simp))
      · exact .inl ((hremainder _ _).mpr (.inl (by rw [hclosed, hitself])))

/--
If all templates are segments and tokens between slashes, and all constraints
are plain and accept only texts that are not empty and have no slashes, a slash
behind a path that ends in none makes no difference to what is found.
-/
theorem final_slash_makes_no_difference (h : r.Reachable)
    (hsegmented : ∀ route ∈ r.routes, route.IsSegmented)
    (hplain : ∀ route ∈ r.routes, route.HasPlainConstraints)
    (hsegments : ∀ route ∈ r.routes, route.ConstrainsSegments) (method : String) {path : String}
    (hpath : path.toList.getLast? ≠ some '/') :
    ∃ answer, (r.find method path).result = .ok answer ∧
      (r.find method (path ++ "/")).result = .ok answer := by
  have hbracket : ∀ route ∈ r.routes, '[' ∉ route.uri.toList := fun route hroute =>
    (hsegmented route hroute).bracket
  have hbuilds : r.Builds := (h.builds_iff hbracket).mpr fun route hroute =>
    Route.check_eq_ok (hplain route hroute).regexes
  have hsame : (r.find method (path ++ "/")).result = (r.find method path).result := by
    rw [h.find_eq hbracket hbuilds, h.find_eq hbracket hbuilds]
    refine congrArg (firstAnswer 0) (List.map_congr_left fun route hroute => congrArg _ ?_)
    rcases h.remainder?_append_slash hpath with hrest | ⟨rest, hne, hlast, hrest, hclosed⟩
    · rw [Route.found, Route.found, hrest]
    · exact (hsegmented route hroute).found_append_slash (h.isConsistent.trimmed route hroute)
        (hplain route hroute) (hsegments route hroute) hne hlast hrest hclosed method
  have hanswer : ∃ answer, (r.find method path).result = .ok answer := by
    rw [h.find_eq hbracket hbuilds]
    refine Table.exists_firstAnswer 0 fun answer hmem => ?_
    obtain ⟨route, hroute, rfl⟩ := List.mem_map.mp hmem
    obtain ⟨found, hfound⟩ := Route.exists_found (hplain route hroute).regexes r.basePath method path
    exact ⟨found, by rw [hfound]; rfl⟩
  obtain ⟨answer, hanswer⟩ := hanswer
  exact ⟨answer, hanswer, hsame.trans hanswer⟩

/-- Numbers are read lazily, an optional segment is missing, and the base path lacks its slash. -/
theorem final_slash_makes_no_difference_for_users :
    let r := fresh.after [.setBasePath "api", .map ["get"] "users/{id}" (.value .null),
      .adjust 0 (.constraint (.single (some "id") (some "[0-9]+?"))),
      .map ["get"] "{kind}/{name}.{form}/{page?}" (.value .null), .map ["get"] "" (.value .null)]
    (r.find "GET" "/api/users/12").result = .ok (some ⟨0, ⟨⟨[("id", "12")]⟩⟩⟩) ∧
      (r.find "GET" "/api/users/12/").result = .ok (some ⟨0, ⟨⟨[("id", "12")]⟩⟩⟩) ∧
      (r.find "GET" "/api/users/a.b.c/").result =
        .ok (some ⟨1, ⟨⟨[("kind", "users"), ("name", "a.b"), ("form", "c")]⟩⟩⟩) ∧
      (r.find "GET" "/api/").result = .ok (some ⟨2, ⟨⟨[]⟩⟩⟩) ∧
      (r.find "GET" "/api/users/").result = .ok none := by
  intro r
  have hread : Regex.Expression.readPlain? "[0-9]+?".toList =
      some ⟨.loop .lazy 1 none (.chars false [.range '0'.toNat '9'.toNat]), {}, [], 1⟩ := by
    decide +kernel
  have hconstraint : ∀ route ∈ r.routes, ∀ entry ∈ route.constraints.entries, entry.2 = "[0-9]+?" := by
    decide +kernel
  have hsegmented : ∀ route ∈ r.routes, route.IsSegmented := by
    have hparts : ∀ route ∈ r.routes, '[' ∉ route.uri.toList ∧ ¬ ['/', '/'] <:+: route.uri.toList ∧
        ¬ ['}', '?'] <:+: route.uri.toList ∧
        Template.HasWholeOptions (Template.scan route.uri.toList) := by
      decide +kernel
    intro route hroute
    obtain ⟨hbracket, hslashes, hmark, hwhole⟩ := hparts route hroute
    exact ⟨hbracket, hslashes, hmark, hwhole⟩
  have hplain : ∀ route ∈ r.routes, route.HasPlainConstraints := fun route hroute entry hentry => by
    rw [hconstraint route hroute entry hentry]
    decide +kernel
  have hsegments : ∀ route ∈ r.routes, route.ConstrainsSegments := by
    intro route hroute entry hentry subject haccepts
    rw [hconstraint route hroute entry hentry] at haccepts
    have hword := (Engine.accepts_iff (by decide +kernel)).mp haccepts
    refine ⟨?_, Engine.Slot.isSlashFree_of_readPlain? hread rfl (by decide) subject hword⟩
    rintro rfl
    obtain ⟨e, he, hmatches⟩ := haccepts
    have hempty : (Regex.Expression.read "[0-9]+?".toList).bind (·.matchesAll []) = .ok false := by
      decide +kernel
    rw [he] at hempty
    simp [Except.bind, hmatches] at hempty
  have hclosed (path closed : String) (answer : Option Found) (hslash : path ++ "/" = closed)
      (hpath : path.toList.getLast? ≠ some '/') (hfind : (r.find "GET" path).result = .ok answer) :
      (r.find "GET" closed).result = .ok answer := by
    obtain ⟨other, hother, hother'⟩ := final_slash_makes_no_difference
      ((Reachable.new make_fresh).after _) hsegmented hplain hsegments "GET" hpath
    rw [hslash] at hother'
    rw [hfind] at hother
    rwa [Except.ok.inj hother]
  have hfind : (r.find "GET" "/api/users/12").result = .ok (some ⟨0, ⟨⟨[("id", "12")]⟩⟩⟩) := by
    decide +kernel
  refine ⟨hfind, ?_, ?_, ?_, ?_⟩
  · exact hclosed "/api/users/12" _ _ (by decide) (by decide) hfind
  · exact hclosed "/api/users/a.b.c" _ _ (by decide) (by decide) (by decide +kernel)
  · exact hclosed "/api" _ _ (by decide) (by decide) (by decide +kernel)
  · exact hclosed "/api/users" _ _ (by decide) (by decide) (by decide +kernel)

end HttpRouting.Router
