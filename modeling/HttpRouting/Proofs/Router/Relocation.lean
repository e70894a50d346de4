import HttpRouting.Proofs.Router.BasePath
import HttpRouting.Proofs.Router.History

/-!
# Moving the base path

A base path, whenever it is given, only moves the table: what is looked up
below it is what is looked up below a single slash, URLs have it in place of
their first slash, and nothing is found outside of it.
-/

namespace HttpRouting

open HttpRouting.Path (trimSlashes)
open Table (firstAnswer)

/-! ## One route -/

theorem Route.found_below (route : Route) (basePath method rest : String) :
    route.found basePath method (basePath ++ rest) = route.found "/" method ("/" ++ rest) := by
  rw [found, found, String.toList_append, String.toList_append, Engine.remainder?_append,
    Engine.remainder?_append]

theorem Route.found_outside (route : Route) {basePath path : String}
    (h : Engine.remainder? basePath.toList path.toList = none) (method : String) :
    route.found basePath method path = .ok none := by
  rw [found, h]

theorem Route.written_below (route : Route) (basePath name : String) (params : Pairs Value) :
    route.written basePath name params =
      (route.written "/" name params).map fun u => basePath ++ .ofList (u.toList.drop 1) := by
  rw [written, written]
  cases Engine.Slot.write name params route.canonicalSlots with
  | ok text => simp [Except.map]
  | error error => cases error <;> rfl

/-! ## Routers -/

namespace Router

variable {r s : Router}

theorem Reachable.remainder?_eq_none (h : r.Reachable) {path : String}
    (hbelow : ¬ r.basePath.toList <+: path.toList) (hbare : path ++ "/" ≠ r.basePath) :
    Engine.remainder? r.basePath.toList path.toList = none := by
  obtain ⟨front, hfront, -, hremainder⟩ := h.exists_front
  refine Option.eq_none_iff_forall_ne_some.mpr fun rest hrest => ?_
  rcases (hremainder _ _).mp hrest with hpath | ⟨hpath, -⟩
  · exact hbelow ⟨rest, by rw [hfront, hpath, List.append_assoc]; rfl⟩
  · exact hbare (String.toList_inj.mp (by rw [hfront, String.toList_append, hpath]; rfl))

/--
The base path only relocates the table.  It is the path that was given last,
with one slash on either side; and whatever is looked up is compared with a
router that has the same routes and a slash for its base path.
-/
theorem base_path_only_relocates {base : String} (hr : r.Based base) (hs : s.Reachable)
    (hslash : s.basePath = "/") (hroutes : List.Forall₂ Route.Alike r.routes s.routes)
    (hbracket : ∀ route ∈ s.routes, '[' ∉ route.uri.toList) (hbuilds : s.Builds) :
    r.basePath = (if trimSlashes base = "" then "/" else "/" ++ trimSlashes base ++ "/") ∧
      r.Builds ∧
      (∀ method rest, (r.find method (r.basePath ++ rest)).result =
        (s.find method ("/" ++ rest)).result) ∧
      (∀ method path, ¬ r.basePath.toList <+: path.toList → path ++ "/" ≠ r.basePath →
        (r.find method path).result = .ok none) ∧
      ∀ name params, (r.url name params).result =
        (s.url name params).result.map fun u => r.basePath ++ .ofList (u.toList.drop 1) := by
  have hreachable := hr.reachable
  have hbracket' : ∀ route ∈ r.routes, '[' ∉ route.uri.toList :=
    (forall_iff_of_forall₂ hroutes fun route other h => by rw [h.uri]).mpr hbracket
  have hbuilds' : r.Builds := by
    rw [hs.builds_iff hbracket] at hbuilds
    rw [hreachable.builds_iff hbracket']
    exact (forall_iff_of_forall₂ hroutes fun route other h => by rw [h.check]).mpr hbuilds
  refine ⟨hr.basePath.trans (Path.normalizeBase_eq base), hbuilds', fun method rest => ?_,
    fun method path hbelow hbare => ?_, fun name params => ?_⟩
  · rw [hreachable.find_eq hbracket' hbuilds', hs.find_eq hbracket hbuilds, hslash]
    refine congrArg (firstAnswer 0) (map_eq_of_forall₂ hroutes fun route other h => ?_)
    rw [route.found_below, h.found]
  · rw [hreachable.find_eq hbracket' hbuilds']
    refine Table.firstAnswer_none 0 fun answer hanswer => ?_
    obtain ⟨route, -, rfl⟩ := List.mem_map.mp hanswer
    rw [route.found_outside (hreachable.remainder?_eq_none hbelow hbare)]
    rfl
  · rw [hreachable.url_eq hbracket' hbuilds', hs.url_eq hbracket hbuilds, hslash]
    rcases named?_alike hroutes name with ⟨hnone, hnone'⟩ | ⟨route, other, hroute, hother, halike⟩
    · rw [hnone, hnone']
      rfl
    · simp only [hroute, hother, ← halike.checkConstraints, ← halike.written]
      rw [route.written_below]
      cases checkConstraints route.constraints name params.entries <;> rfl

theorem base_path_only_relocates_compiled :
    let s := single "posts/{id}" "posts" "id" "[0-9]+"
    let r := s.after [.build, .setBasePath " //api/v1/ ", .find "GET" "/"]
    r.basePath = "/api/v1/" ∧
      (r.find "GET" "/api/v1/posts/12").result = .ok (some ⟨0, ⟨⟨[("id", "12")]⟩⟩⟩) ∧
      (r.find "GET" "/api/v10/posts/12").result = .ok none ∧
      (r.url "posts" ⟨[("id", .int 12)]⟩).result = .ok "/api/v1/posts/12/" := by
  intro s r
  have hs : s.Reachable := reachable_single ..
  have hr : r.Based " //api/v1/ " :=
    .keep (.find "GET" "/") (fun _ => by simp) (.rebase (hs.perform .build))
  obtain ⟨hbase, -, hfind, hnone, hurl⟩ := base_path_only_relocates hr hs (by decide +kernel)
    (forall₂_alike_of_map (by decide +kernel)) (List.forall_mem_singleton.mpr (by decide))
    (builds_of_toBool (by decide +kernel))
  have hnormal : r.basePath = "/api/v1/" := hbase.trans (by decide +kernel)
  rw [hnormal] at hfind hnone hurl
  refine ⟨hnormal, ?_, ?_, ?_⟩
  · exact (hfind "GET" "posts/12").trans (by decide +kernel)
  · exact hnone "GET" _ (by decide) (by decide)
  · exact (hurl "posts" _).trans (by decide +kernel)

end Router

end HttpRouting
