import HttpRouting.Proofs.Router.Registration
import Mathlib.Data.List.Forall2

/-!
# Routes do not affect each other

Registering several routes with a new router comes to the same as registering
each of them with a router of its own: the whole table compiles when every
route compiles alone, and finds what the first route finds that finds anything
alone.  A route that fails to compile fails in the same way in both, but only
an expression that is not well formed is reported as the route's own fault.
-/

namespace HttpRouting

open Table (firstAnswer)

namespace Router

def alone (r : Router) (registration : Registration) : Router := (r.register registration).router

/-! ## Building and finding -/

/-- A router that has not been compiled, whose templates have no blocks of their own. -/
structure IsOpen (r : Router) : Prop where
  table : r.table = none
  writable : r.compiler.IsWritable
  template : ∀ route ∈ r.routes, route.IsTemplate

theorem IsOpen.builds_iff {r : Router} (h : r.IsOpen) :
    r.Builds ↔ ∀ route ∈ r.routes, route.check = .ok () := by
  rw [← Table.forM_check_eq_ok, ← Table.build_check r.basePath h.writable h.template, Builds,
    build_result h.table]
  cases (Table.build r.routes r.basePath r.compiler).1 <;> simp [Except.mapError, Except.map]

theorem IsOpen.build_error {r : Router} (h : r.IsOpen) {before after : List Route} {route : Route}
    (hroutes : r.routes = before ++ route :: after)
    (hbefore : ∀ earlier ∈ before, earlier.check = .ok ()) {own : TableError}
    (hown : route.check = .error own) :
    ∃ error, r.build.result = .error (.table error) ∧ error.unnamed = own := by
  have hcheck := Table.build_check r.basePath h.writable h.template
  rw [hroutes, Table.forM_check_eq_error hbefore hown, ← hroutes] at hcheck
  rw [build_result h.table]
  cases hbuild : (Table.build r.routes r.basePath r.compiler).1 with
  | error error =>
      refine ⟨error, rfl, ?_⟩
      simpa [hbuild, Except.mapError, Except.map] using hcheck
  | ok t => simp [hbuild, Except.mapError, Except.map] at hcheck

theorem IsOpen.find {r : Router} (h : r.IsOpen) (hbuilds : r.Builds) (method path : String) :
    (r.find method path).result = firstAnswer 0 (r.routes.map fun route =>
      (route.found r.basePath method path).mapError .engine) := by
  obtain ⟨t, ht⟩ := hbuilds
  rw [find_of_build ht]
  rw [build_result h.table] at ht
  cases hbuild : (Table.build r.routes r.basePath r.compiler).1 with
  | error error => simp [hbuild, Except.mapError] at ht
  | ok built =>
      obtain rfl : built = t := by simpa [hbuild, Except.mapError] using ht
      rw [Table.find_build h.writable h.template hbuild, Table.firstAnswer_mapError, List.map_map]
      rfl

end Router

/-! ## Errors of the same kind -/

namespace TableError

theorem eq_invalidRoute_of_unnamed {error : TableError} {uri : String} {cause : PatternError}
    (h : error.unnamed = .invalidRoute uri cause) : ∃ cause, error = .invalidRoute uri cause := by
  cases error with
  | invalidRoute other own =>
      simp only [unnamed, invalidRoute.injEq] at h
      exact ⟨own, by rw [h.1]⟩
  | engine error => simp [unnamed] at h

theorem eq_engine_of_unnamed {error : TableError} {own : EngineError}
    (h : error.unnamed = .engine own) : error = .engine own := by
  cases error with
  | invalidRoute uri cause => simp [unnamed] at h
  | engine error => simpa [unnamed] using h

end TableError

/-! ## Isolation -/

section

variable {α β : Type} {R : α → β → Prop} {xs : List α} {ys : List β}

theorem forall_iff_of_forall₂ (h : List.Forall₂ R xs ys) {P : α → Prop} {Q : β → Prop}
    (hiff : ∀ x y, R x y → (P x ↔ Q y)) : (∀ x ∈ xs, P x) ↔ ∀ y ∈ ys, Q y := by
  induction h with
  | nil => simp
  | cons hfirst _ ih => rw [List.forall_mem_cons, List.forall_mem_cons, ih, hiff _ _ hfirst]

theorem map_eq_of_forall₂ {γ : Type} (h : List.Forall₂ R xs ys) {f : α → γ} {g : β → γ}
    (heq : ∀ x y, R x y → f x = g y) : xs.map f = ys.map g := by
  induction h with
  | nil => rfl
  | cons hfirst _ ih => rw [List.map_cons, List.map_cons, ih, heq _ _ hfirst]

private theorem exists_split_of_forall₂ {before after : List α} {x : α}
    (h : List.Forall₂ R (before ++ x :: after) ys) :
    ∃ first y last, ys = first ++ y :: last ∧ List.Forall₂ R before first ∧ R x y := by
  induction before generalizing ys with
  | nil =>
      cases h with
      | cons hxy _ => exact ⟨[], _, _, rfl, .nil, hxy⟩
  | cons other before ih =>
      cases h with
      | cons hother hrest =>
          obtain ⟨first, y, last, rfl, hfirst, hxy⟩ := ih hrest
          exact ⟨_ :: first, y, last, rfl, .cons hother hfirst, hxy⟩

end

namespace Router

theorem make_eq {settings : Settings} {modules : Modules} {registry : Option Registry} {r : Router}
    (h : make settings modules registry = .ok r) :
    r.routes = [] ∧ r.table = none ∧ r.compiler = {} := by
  obtain ⟨path, -, rfl⟩ := exists_of_make h
  exact ⟨rfl, rfl, rfl⟩

/-- A registration stands alone in a router that is open and holds the route it makes. -/
structure StandsAlone (r : Router) (registration : Registration) (route : Route) : Prop where
  eq : r.alone registration = { r with routes := [route] }
  isOpen : (r.alone registration).IsOpen
  uri : route.uri = Path.trimSlashes registration.uri

theorem StandsAlone.builds_iff {r : Router} {registration : Registration} {route : Route}
    (h : r.StandsAlone registration route) :
    (r.alone registration).Builds ↔ route.check = .ok () := by
  rw [h.isOpen.builds_iff, h.eq]
  simp

theorem StandsAlone.find {r : Router} {registration : Registration} {route : Route}
    (h : r.StandsAlone registration route) (hbuilds : (r.alone registration).Builds)
    (method path : String) :
    ((r.alone registration).find method path).result =
      (route.found r.basePath method path).mapError .engine := by
  rw [h.isOpen.find hbuilds, h.eq, List.map_cons, List.map_nil]
  cases hfound : route.found r.basePath method path with
  | error error => rfl
  | ok found =>
      cases found with
      | none => rfl
      | some found =>
          have hplace : found.route = 0 := by
            rw [Route.found] at hfound
            split at hfound
            next => simp at hfound
            next rest hrest =>
              cases hhit : Engine.firstHit (Text.upper method) rest route.entries with
              | error error => simp [hhit, Except.map] at hfound
              | ok hit =>
                  cases hit with
                  | none => simp [hhit, Except.map] at hfound
                  | some hit =>
                      simp only [hhit, Except.map, Option.map_some, Except.ok.injEq,
                        Option.some.injEq] at hfound
                      rw [← hfound]
          obtain ⟨place, params⟩ := found
          subst hplace
          rfl

theorem standsAlone_of_registerAll {settings : Settings} {modules : Modules}
    {registry : Option Registry} {r : Router} (hmake : make settings modules registry = .ok r)
    {registrations : List Registration} (hresult : (registerAll registrations r).result = .ok ())
    (hbracket : ∀ registration ∈ registrations, '[' ∉ registration.uri.toList) :
    ∃ routes, List.Forall₂ r.StandsAlone registrations routes ∧
      (registerAll registrations r).router = { r with routes := routes } ∧
      ({ r with routes := routes } : Router).IsOpen := by
  obtain ⟨hempty, hopen, hcompiler⟩ := make_eq hmake
  obtain ⟨routes, hroutes, hwhole⟩ := registerAll_router hopen hresult
  have hwritable : r.compiler.IsWritable := by
    rw [hcompiler]
    exact Template.Compiler.isWritable_default
  have hboth := (List.forall₂_and_left _ _).mpr ⟨hbracket, hroutes⟩
  refine ⟨routes, hboth.imp fun registration route h => ?_, by simpa [hempty] using hwhole,
    hopen, hwritable, fun route hroute => ?_⟩
  · have halone : r.alone registration = { r with routes := [route] } := by
      simpa [alone, hempty] using register_router hopen h.2
    refine ⟨halone, ?_, Registration.route_uri h.2⟩
    rw [halone]
    refine ⟨hopen, hwritable, fun other hother => ?_⟩
    rw [List.mem_singleton.mp hother]
    exact Registration.isTemplate_route h.2 h.1
  · have hall := (forall_iff_of_forall₂ hboth (P := fun _ => True) (Q := Route.IsTemplate)
      fun registration route h => iff_of_true trivial (Registration.isTemplate_route h.2 h.1)).mp
    exact hall (fun _ _ => trivial) route hroute

/--
Registrations with a new router are isolated.  The last two parts say what the
table does when it compiles, and the middle part how it fails otherwise: as the
first route that fails alone, which is reported as invalid exactly if it is
reported so alone.
-/
theorem registrations_are_isolated {settings : Settings} {modules : Modules}
    {registry : Option Registry} {r : Router} (hmake : make settings modules registry = .ok r)
    {registrations : List Registration} (hresult : (registerAll registrations r).result = .ok ())
    (hbracket : ∀ registration ∈ registrations, '[' ∉ registration.uri.toList) :
    let whole := (registerAll registrations r).router
    (whole.Builds ↔ ∀ registration ∈ registrations, (r.alone registration).Builds) ∧
    (∀ before registration after, registrations = before ++ registration :: after →
      (∀ earlier ∈ before, (r.alone earlier).Builds) → ¬ (r.alone registration).Builds →
      ∃ error own, whole.build.result = .error (.table error) ∧
        (r.alone registration).build.result = .error (.table own) ∧
        error.unnamed = own.unnamed ∧
        ((∃ cause, error = .invalidRoute (Path.trimSlashes registration.uri) cause) ∨
          ∃ e, error = .engine (.regex e) ∧ ∀ cause position, e ≠ .invalid cause position)) ∧
    (whole.Builds → ∀ method path,
      (whole.find method path).result = firstAnswer 0 (registrations.map fun registration =>
        ((r.alone registration).find method path).result)) := by
  obtain ⟨routes, halone, hwhole, hopen⟩ := standsAlone_of_registerAll hmake hresult hbracket
  have hbuilds : ({ r with routes := routes } : Router).Builds ↔
      ∀ registration ∈ registrations, (r.alone registration).Builds := by
    rw [hopen.builds_iff]
    exact (forall_iff_of_forall₂ halone fun registration route h => h.builds_iff).symm
  simp only [hwhole]
  refine ⟨hbuilds, ?_, ?_⟩
  · rintro before registration after rfl hbefore hfails
    obtain ⟨first, route, last, rfl, hfirst, hroute⟩ := exists_split_of_forall₂ halone
    have hearlier : ∀ earlier ∈ first, earlier.check = .ok () :=
      (forall_iff_of_forall₂ hfirst fun _ _ h => h.builds_iff).mp hbefore
    rw [hroute.builds_iff] at hfails
    cases hcheck : route.check with
    | ok => exact absurd hcheck hfails
    | error own =>
        obtain ⟨error, herror, hsame⟩ := hopen.build_error rfl hearlier hcheck
        have hsingleton : (r.alone registration).routes = [] ++ route :: [] := by
          rw [hroute.eq]
          rfl
        obtain ⟨single, hsingle, hown⟩ :=
          hroute.isOpen.build_error hsingleton (by simp) hcheck
        refine ⟨error, single, herror, hsingle, hsame.trans hown.symm, ?_⟩
        rcases Table.check_error hcheck with ⟨cause, hinvalid⟩ | ⟨e, hengine, he⟩
        · have hinvalid' : error.unnamed = .invalidRoute (Path.trimSlashes registration.uri) cause := by
            rw [hsame, hinvalid, hroute.uri]
          exact .inl (TableError.eq_invalidRoute_of_unnamed hinvalid')
        · exact .inr ⟨e, TableError.eq_engine_of_unnamed (hsame.trans hengine), he⟩
  · intro hwholeBuilds method path
    rw [hopen.find hwholeBuilds]
    have hall := hbuilds.mp hwholeBuilds
    have hboth := (List.forall₂_and_left _ _).mpr ⟨hall, halone⟩
    rw [map_eq_of_forall₂ hboth fun registration route h => h.2.find h.1 method path]

theorem registrations_are_isolated_digits_before_letters :
    let digits := Registration.get "users/{id}" none [("id", "[0-9]+")]
    let letters := Registration.get "users/{id}" none [("id", "[a-z]+")]
    let whole := (registerAll [digits, letters] fresh).router
    (registerAll [digits, letters] fresh).result = .ok () ∧
      ∀ method path, (whole.find method path).result = firstAnswer 0
        [((fresh.alone digits).find method path).result,
          ((fresh.alone letters).find method path).result] := by
  intro digits letters whole
  have hresult : (registerAll [digits, letters] fresh).result = .ok () := rfl
  have hbuilds : whole.build.result.toBool = true := by decide +kernel
  have hisolated := registrations_are_isolated make_fresh hresult (by decide)
  refine ⟨hresult, hisolated.2.2 ?_⟩
  cases htable : whole.build.result with
  | error error => simp [htable, Except.toBool] at hbuilds
  | ok table => exact ⟨table, htable⟩

/-- A repetition beyond all bounds is not reported as an invalid constraint. -/
theorem huge_repetition_is_no_invalidRoute :
    let registration := Registration.get "posts/{id}" none [("id", "[0-9]{4294967295}")]
    let whole := (registerAll [registration] fresh).router
    (registerAll [registration] fresh).result = .ok () ∧
      ¬ (fresh.alone registration).Builds ∧
      ¬ ∃ uri cause, whole.build.result = .error (.table (.invalidRoute uri cause)) := by
  intro registration whole
  have hfails : whole.build.result.map (fun _ => ()) =
      .error (.table (.engine (.regex .boundTooLarge))) := by decide +kernel
  have halone : (fresh.alone registration).build.result.map (fun _ => ()) =
      .error (.table (.engine (.regex .boundTooLarge))) := by decide +kernel
  refine ⟨rfl, ?_, ?_⟩
  · rintro ⟨table, htable⟩
    rw [htable] at halone
    simp [Except.map] at halone
  · rintro ⟨uri, cause, hinvalid⟩
    rw [hinvalid] at hfails
    simp [Except.map] at hfails

end Router

end HttpRouting
