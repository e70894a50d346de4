import HttpRouting.Proofs.Path
import HttpRouting.Proofs.Router.Registration
import Mathlib.Data.List.Induction

/-!
# Groups only join paths

A group gives its path to what is declared within it, and nothing else.  So a
tree of declarations does to a router what the list of its registrations does,
each under the paths of the groups around it, trimmed and joined by single
slashes.  Where a registration fails, both end in the same way.
-/

namespace HttpRouting

open Declaration (flatten flattenAll joinPaths)
open HttpRouting.Path (IsTrimmed trim trimSlashes)

/-! ## Replies in a row -/

namespace Reply

variable {α β γ : Type}

theorem andThen_assoc (reply : Reply α) (f : α → Router → Reply β) (g : β → Router → Reply γ) :
    (reply.andThen f).andThen g = reply.andThen fun answer r => (f answer r).andThen g := by
  obtain ⟨result, r, warnings, call⟩ := reply
  cases result with
  | error error => rfl
  | ok answer =>
      simp only [andThen]
      cases (f answer r).result with
      | error error => rfl
      | ok next => simp only [List.append_assoc, Option.or_assoc]

theorem done_andThen (r : Router) (next : Unit → Router → Reply β) :
    (ofChange r (.ok r)).andThen next = next () r := by
  simp only [ofChange, andThen, List.nil_append, Option.none_or]

theorem andThen_done (reply : Reply Unit) :
    (reply.andThen fun _ r => ofChange r (.ok r)) = reply := by
  obtain ⟨result, r, warnings, call⟩ := reply
  cases result with
  | error error => rfl
  | ok answer => simp only [andThen, ofChange, List.append_nil, Option.or_none]

end Reply

namespace Router

theorem registerAll_append (first second : List Registration) (r : Router) :
    registerAll (first ++ second) r =
      (registerAll first r).andThen fun _ r => registerAll second r := by
  induction first generalizing r with
  | nil => rw [List.nil_append, registerAll, Reply.done_andThen]
  | cons registration rest ih =>
      simp only [List.cons_append, registerAll, Reply.andThen_assoc, ih]

theorem registerAll_singleton (registration : Registration) (r : Router) :
    registerAll [registration] r = r.register registration := by
  simp only [registerAll, Reply.andThen_done]

theorem register_congr (r : Router) (registration : Registration) {uri : String}
    (h : trimSlashes uri = trimSlashes registration.uri) :
    r.register { registration with uri := uri } = r.register registration := by
  simp only [register, Router.map, Route.make, h]

end Router

/-! ## Joined paths -/

namespace Declaration

def partsOf (paths : List String) : List String :=
  (paths.map trimSlashes).filter fun path => !path.isEmpty

theorem joinPaths_eq (paths : List String) : joinPaths paths = "/".intercalate (partsOf paths) := rfl

theorem partsOf_concat (paths : List String) (path : String) :
    partsOf (paths ++ [path]) =
      partsOf paths ++ if (trimSlashes path).isEmpty then [] else [trimSlashes path] := by
  by_cases hempty : trimSlashes path = "" <;> simp [partsOf, hempty]

theorem joinPaths_singleton (path : String) : joinPaths [path] = trimSlashes path := by
  by_cases hempty : trimSlashes path = "" <;> simp [joinPaths, hempty]

theorem joinPaths_ne_empty {paths : List String} (h : partsOf paths ≠ []) : joinPaths paths ≠ "" := by
  rw [joinPaths_eq]
  obtain ⟨first, rest, hparts⟩ := List.exists_cons_of_ne_nil h
  have hfirst : first ≠ "" := by
    have hmem : first ∈ partsOf paths := by simp [hparts]
    simpa using (List.mem_filter.mp hmem).2
  rw [hparts]
  cases rest with
  | nil => rwa [String.intercalate_singleton]
  | cons second rest => simp [String.intercalate_cons_cons, hfirst]

theorem joinPaths_concat {paths : List String} (h : IsTrimmed (joinPaths paths).toList)
    (path : String) :
    joinPaths (paths ++ [path]) = trimSlashes (joinPaths paths ++ "/" ++ trimSlashes path) := by
  rw [Path.trimSlashes_join h (Path.isTrimmed_trimSlashes path), joinPaths_eq (paths ++ [path]),
    partsOf_concat]
  by_cases hempty : trimSlashes path = ""
  · simp [hempty, joinPaths_eq]
  · by_cases hnil : partsOf paths = []
    · simp [hnil, hempty, joinPaths_eq]
    · have hjoined := joinPaths_ne_empty hnil
      rw [joinPaths_eq] at hjoined ⊢
      simp [hempty, hjoined, String.intercalate_append_of_ne_nil hnil]

theorem isTrimmed_joinPaths (paths : List String) : IsTrimmed (joinPaths paths).toList := by
  induction paths using List.reverseRecOn with
  | nil => exact Path.isTrimmed_trimSlashes ""
  | append_singleton paths path ih =>
      rw [joinPaths_concat ih]
      exact Path.isTrimmed_trimSlashes _

/-! ## Declarations as lists -/

/-- A group has the joined paths of the groups around it and its own. -/
def Spans (group : Option Group) (paths : List String) : Prop :=
  match group with
  | none => paths = []
  | some g => g.path = joinPaths paths

theorem Spans.within {group : Option Group} {paths : List String} (h : Spans group paths)
    (path : String) : Spans (some (Group.within group path)) (paths ++ [path]) := by
  cases group with
  | none =>
      obtain rfl : paths = [] := h
      rw [Spans, List.nil_append, joinPaths_singleton]
      rfl
  | some g =>
      rw [Spans, joinPaths_concat (isTrimmed_joinPaths paths), ← (h : g.path = joinPaths paths)]
      rfl

theorem Spans.trimSlashes_place {group : Option Group} {paths : List String} (h : Spans group paths)
    (registration : Registration) :
    trimSlashes (Group.place group registration).uri =
      trimSlashes (joinPaths (paths ++ [registration.uri])) := by
  rw [Path.trimSlashes_eq (isTrimmed_joinPaths _)]
  cases group with
  | none =>
      obtain rfl : paths = [] := h
      exact (joinPaths_singleton registration.uri).symm
  | some g =>
      rw [joinPaths_concat (isTrimmed_joinPaths paths), ← (h : g.path = joinPaths paths)]
      rfl

mutual

theorem run_eq : ∀ (d : Declaration) {around : Option Group} {paths : List String},
    Spans around paths → ∀ r, d.run around r = Router.registerAll (d.flatten paths) r
  | .route registration, around, paths, h, r => by
      have hplace := Router.register_congr r (Group.place around registration)
        (h.trimSlashes_place registration).symm
      rw [run, flatten, Router.registerAll_singleton, ← hplace]
      cases around <;> rfl
  | .group path body, around, paths, h, r => by
      rw [run, flatten]
      exact runAll_eq body (h.within path) r

theorem runAll_eq : ∀ (declarations : List Declaration) {around : Option Group}
    {paths : List String}, Spans around paths → ∀ r,
      runAll around declarations r = Router.registerAll (flattenAll paths declarations) r
  | [], around, paths, h, r => by rw [runAll, flattenAll, Router.registerAll]
  | d :: rest, around, paths, h, r => by
      rw [runAll, flattenAll, Router.registerAll_append, run_eq d h r]
      congr 1
      funext _ next
      exact runAll_eq rest h next

end

mutual

theorem isTrimmed_of_mem_flatten : ∀ (d : Declaration) {paths : List String} {registration : Registration},
    registration ∈ d.flatten paths → IsTrimmed registration.uri.toList
  | .route registration, paths, other, h => by
      rw [flatten, List.mem_singleton] at h
      rw [h]
      exact isTrimmed_joinPaths _
  | .group path body, paths, registration, h => by
      rw [flatten] at h
      exact isTrimmed_of_mem_flattenAll body h

theorem isTrimmed_of_mem_flattenAll : ∀ (declarations : List Declaration) {paths : List String}
    {registration : Registration},
    registration ∈ flattenAll paths declarations → IsTrimmed registration.uri.toList
  | [], paths, registration, h => by simp [flattenAll] at h
  | d :: rest, paths, registration, h => by
      rw [flattenAll, List.mem_append] at h
      rcases h with h | h
      · exact isTrimmed_of_mem_flatten d h
      · exact isTrimmed_of_mem_flattenAll rest h

end

/--
Declarations do to a router what the list of their registrations does, and
where that succeeds the routes have the joined paths as they stand in the list.
-/
theorem groups_only_join_paths {r : Router} (hopen : r.table = none)
    (declarations : List Declaration) :
    let flat := flattenAll [] declarations
    runAll none declarations r = Router.registerAll flat r ∧
      ((runAll none declarations r).result = .ok () →
        ∃ routes, (runAll none declarations r).router = { r with routes := r.routes ++ routes } ∧
          List.Forall₂ (fun registration route =>
            registration.route r.modules r.registry = .ok route ∧ route.uri = registration.uri)
            flat routes) := by
  intro flat
  have hflat : runAll none declarations r = Router.registerAll flat r :=
    runAll_eq declarations (show Spans none [] from rfl) r
  refine ⟨hflat, fun hresult => ?_⟩
  rw [hflat] at hresult ⊢
  obtain ⟨routes, hroutes, hrouter⟩ := Router.registerAll_router hopen hresult
  have htrimmed : ∀ registration ∈ flat, IsTrimmed registration.uri.toList := fun _ hmem =>
    isTrimmed_of_mem_flattenAll declarations hmem
  refine ⟨routes, hrouter, ((List.forall₂_and_left _ _).mpr ⟨htrimmed, hroutes⟩).imp ?_⟩
  rintro registration route ⟨htrim, hroute⟩
  exact ⟨hroute, by rw [Registration.route_uri hroute, Path.trimSlashes_eq htrim]⟩

theorem groups_only_join_paths_nested :
    let users := Registration.get "//users/{id}/ " (some "user") [("id", "[0-9]+")]
    let files := Registration.get "files" none []
    let declarations := [.route (.get "/" none []),
      .group " /api/ " [.route users, .group "/" [.group "v2/" [.route files]]]]
    let flat := [.get "" none [], .get "api/users/{id}" (some "user") [("id", "[0-9]+")],
      .get "api/v2/files" none []]
    let r := (runAll none declarations Router.fresh).router
    runAll none declarations Router.fresh = Router.registerAll flat Router.fresh ∧
      r.routes.map Route.uri = ["", "api/users/{id}", "api/v2/files"] := by
  intro users files declarations flat r
  have hroot : joinPaths ["/"] = "" := by decide +kernel
  have husers : joinPaths [" /api/ ", "//users/{id}/ "] = "api/users/{id}" := by decide +kernel
  have hfiles : joinPaths [" /api/ ", "/", "v2/", "files"] = "api/v2/files" := by decide +kernel
  have hflat : flattenAll [] declarations = flat := by
    simp only [declarations, users, files, flat, flattenAll, flatten, Registration.get,
      List.nil_append, List.cons_append, List.append_nil, hroot, husers, hfiles]
  obtain ⟨hrun, hroutes⟩ := groups_only_join_paths (r := Router.fresh) rfl declarations
  rw [hflat] at hrun hroutes
  have hresult : (Router.registerAll flat Router.fresh).result = .ok () := rfl
  obtain ⟨routes, hrouter, hmade⟩ := hroutes (by rw [hrun, hresult])
  refine ⟨hrun, ?_⟩
  have huris : routes.map Route.uri = flat.map Registration.uri := by
    rw [← List.forall₂_eq_eq_eq, List.forall₂_map_left_iff, List.forall₂_map_right_iff]
    exact hmade.flip.imp fun _ _ h => h.2
  have hr : r.routes = routes := by rw [show r = _ from hrouter]; rfl
  rw [hr, huris]
  rfl

end Declaration

end HttpRouting
