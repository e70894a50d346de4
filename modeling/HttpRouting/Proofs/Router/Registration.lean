import HttpRouting.Proofs.Table.Isolation
import HttpRouting.Registration

/-!
# Registering routes

A registration makes the same route whatever else has been registered, and
appends it to the routes of the router.  The template of the route is trimmed,
and what is given to the route afterwards does not change it.
-/

namespace HttpRouting

/-! ## Adjusting -/

def Adjustment.apply (route : Route) : Adjustment → Except RouteError Route
  | .name given => route.rename given
  | .constraint c => route.constrain c

def Adjustment.applyAll : List Adjustment → Route → Except RouteError Route
  | [], route => .ok route
  | a :: rest, route => (a.apply route).bind (applyAll rest)

theorem Adjustment.apply_uri {a : Adjustment} {route next : Route} (h : a.apply route = .ok next) :
    next.uri = route.uri := by
  cases a with
  | name given =>
      simp only [apply, Route.rename] at h
      split at h
      next => simp at h
      next =>
        split at h
        next => simp at h
        next =>
          rw [Except.ok.injEq] at h
          rw [← h]
  | constraint c =>
      simp only [apply, Route.constrain] at h
      split at h
      next => simp at h
      next =>
        split at h <;> simp only [Except.ok.injEq, reduceCtorEq] at h <;> rw [← h]

theorem Adjustment.applyAll_uri {adjustments : List Adjustment} {route next : Route}
    (h : applyAll adjustments route = .ok next) : next.uri = route.uri := by
  induction adjustments generalizing route with
  | nil =>
      rw [applyAll, Except.ok.injEq] at h
      rw [h]
  | cons a rest ih =>
      rw [applyAll] at h
      cases hfirst : a.apply route with
      | error error => simp [hfirst, Except.bind] at h
      | ok middle =>
          simp only [hfirst, Except.bind] at h
          exact (ih h).trans (apply_uri hfirst)

namespace Router

/-! ## New routers -/

theorem exists_of_make {settings : Settings} {modules : Modules} {registry : Option Registry}
    {r : Router} (h : make settings modules registry = .ok r) :
    ∃ path, settings.basePath = .text path ∧
      r = {
        settings := settings
        modules := modules
        registry := registry
        basePath := Path.normalizeBase path } := by
  rw [make] at h
  split at h
  next path hpath => exact ⟨path, hpath, (Except.ok.inj h).symm⟩
  next => simp at h
  next => simp at h

/-! ## Adjusting a route of a router -/

theorem adjustRoute_eq {r : Router} {place : Nat} {route : Route}
    (hroute : r.routes[place]? = some route) (a : Adjustment) :
    r.adjustRoute place a =
      ((a.apply route).mapError .route).map fun next =>
        { r with routes := r.routes.set place next } := by
  cases a with
  | name given =>
      simp only [adjustRoute, nameRoute, changeRoute, hroute, Adjustment.apply]
      cases route.rename given <;> rfl
  | constraint c =>
      simp only [adjustRoute, constrainRoute, changeRoute, hroute, Adjustment.apply]
      cases route.constrain c <;> rfl

theorem adjustRoute_of_none {r : Router} {place : Nat} (hroute : r.routes[place]? = none)
    (a : Adjustment) : r.adjustRoute place a = .ok r := by
  cases a <;> simp [adjustRoute, nameRoute, constrainRoute, changeRoute, hroute]

theorem adjustAll_result {r : Router} {place : Nat} {route : Route}
    (hroute : r.routes[place]? = some route) (adjustments : List Adjustment) :
    (adjustAll place adjustments r).result =
      ((Adjustment.applyAll adjustments route).mapError .route).map fun _ => () := by
  induction adjustments generalizing r route with
  | nil => rfl
  | cons a rest ih =>
      rw [adjustAll, adjustRoute_eq hroute, Adjustment.applyAll]
      cases hfirst : a.apply route with
      | error error => rfl
      | ok next =>
          have hnext : (r.routes.set place next)[place]? = some next := by
            obtain ⟨hplace, -⟩ := List.getElem?_eq_some_iff.mp hroute
            simp [hplace]
          exact ih (r := { r with routes := r.routes.set place next }) hnext

theorem adjustAll_router {r : Router} {place : Nat} {route next : Route}
    (hroute : r.routes[place]? = some route) {adjustments : List Adjustment}
    (h : Adjustment.applyAll adjustments route = .ok next) :
    (adjustAll place adjustments r).router = { r with routes := r.routes.set place next } := by
  obtain ⟨hplace, hget⟩ := List.getElem?_eq_some_iff.mp hroute
  induction adjustments generalizing r route with
  | nil =>
      rw [Adjustment.applyAll, Except.ok.injEq] at h
      subst h hget
      simp [adjustAll, Reply.ofChange]
  | cons a rest ih =>
      rw [Adjustment.applyAll] at h
      rw [adjustAll, adjustRoute_eq hroute]
      cases hfirst : a.apply route with
      | error error => simp [hfirst, Except.bind] at h
      | ok middle =>
          simp only [hfirst, Except.bind] at h
          have hmiddle : (r.routes.set place middle)[place]? = some middle := by simp [hplace]
          have hrest := ih (r := { r with routes := r.routes.set place middle }) hmiddle h
            (by simpa using hplace) (by simp)
          simpa [Reply.ofChange, Reply.andThen, Except.mapError, Except.map] using hrest

end Router

/-! ## Registering -/

def Registration.route (registration : Registration) (modules : Modules)
    (registry : Option Registry) : Except RouterError Route := do
  let action ← (Action.resolve modules registry registration.target).mapError .resolve
  (Adjustment.applyAll registration.adjustments
    (.make registration.methods registration.uri action)).mapError .route

theorem Registration.route_uri {registration : Registration} {modules : Modules}
    {registry : Option Registry} {route : Route}
    (h : registration.route modules registry = .ok route) :
    route.uri = Path.trimSlashes registration.uri := by
  unfold Registration.route at h
  cases haction : Action.resolve modules registry registration.target with
  | error error => simp [haction, Except.mapError, bind, Except.bind] at h
  | ok action =>
      simp only [haction, Except.mapError, bind, Except.bind] at h
      cases hadjusted : Adjustment.applyAll registration.adjustments
          (.make registration.methods registration.uri action) with
      | error error => simp [hadjusted] at h
      | ok adjusted =>
          simp only [hadjusted, Except.ok.injEq] at h
          rw [← h, Adjustment.applyAll_uri hadjusted]
          rfl

theorem Registration.isTemplate_route {registration : Registration} {modules : Modules}
    {registry : Option Registry} {route : Route}
    (h : registration.route modules registry = .ok route) (hbracket : '[' ∉ registration.uri.toList) :
    route.IsTemplate where
  trimmed := by
    rw [route_uri h]
    exact Path.isTrimmed_trimSlashes _
  bracket := by
    rw [route_uri h, Path.trimSlashes, String.toList_ofList]
    exact fun hmem => hbracket (Path.mem_of_mem_trim hmem)

def Registration.get (uri : String) (name : Option String) (constraints : List (String × String)) :
    Registration where
  methods := ["GET"]
  uri := uri
  target := .value .null
  adjustments := .name name :: constraints.map fun (param, regex) =>
    .constraint (.single (some param) (some regex))

namespace Router

def fresh : Router where
  settings := {}
  modules := ∅
  registry := none
  basePath := Path.normalizeBase "/"

theorem make_fresh : make {} ∅ none = .ok fresh := rfl

theorem map_eq {r : Router} (hopen : r.table = none) (methods : List String) (uri : String)
    (target : Target) :
    r.map methods uri target =
      ((Action.resolve r.modules r.registry target).mapError .resolve).map fun action =>
        { r with routes := r.routes ++ [.make methods uri action] } := by
  rw [map, if_neg (by simp [frozen, hopen])]
  cases Action.resolve r.modules r.registry target <;> rfl

theorem register_result {r : Router} (hopen : r.table = none) (registration : Registration) :
    (r.register registration).result =
      (registration.route r.modules r.registry).map fun _ => () := by
  rw [register, map_eq hopen, Registration.route]
  cases Action.resolve r.modules r.registry registration.target with
  | error error => rfl
  | ok action =>
      have hlast : (r.routes ++ [Route.make registration.methods registration.uri action])[
          r.routes.length]? = some (.make registration.methods registration.uri action) := by
        simp
      exact adjustAll_result (r := { r with
        routes := r.routes ++ [.make registration.methods registration.uri action] }) hlast
        registration.adjustments

theorem register_router {r : Router} (hopen : r.table = none) {registration : Registration}
    {route : Route} (h : registration.route r.modules r.registry = .ok route) :
    (r.register registration).router = { r with routes := r.routes ++ [route] } := by
  rw [Registration.route] at h
  rw [register, map_eq hopen]
  cases haction : Action.resolve r.modules r.registry registration.target with
  | error error => simp [haction, Except.mapError, bind, Except.bind] at h
  | ok action =>
      simp only [haction, Except.mapError, bind, Except.bind] at h
      cases hadjusted : Adjustment.applyAll registration.adjustments
          (.make registration.methods registration.uri action) with
      | error error => simp [hadjusted] at h
      | ok adjusted =>
          simp only [hadjusted, Except.ok.injEq] at h
          subst h
          have hlast : (r.routes ++ [Route.make registration.methods registration.uri action])[
              r.routes.length]? = some (.make registration.methods registration.uri action) := by
            simp
          have hrouter := adjustAll_router (r := { r with
            routes := r.routes ++ [.make registration.methods registration.uri action] })
            hlast hadjusted
          simpa [Reply.ofChange, Reply.andThen, Except.mapError, Except.map] using hrouter

theorem registerAll_router {r : Router} (hopen : r.table = none)
    {registrations : List Registration} (h : (registerAll registrations r).result = .ok ()) :
    ∃ routes, List.Forall₂ (fun registration route =>
        Registration.route registration r.modules r.registry = .ok route) registrations routes ∧
      (registerAll registrations r).router = { r with routes := r.routes ++ routes } := by
  induction registrations generalizing r with
  | nil => exact ⟨[], .nil, by simp [registerAll, Reply.ofChange]⟩
  | cons registration rest ih =>
      have hresult := register_result hopen registration
      rw [registerAll] at h ⊢
      cases hroute : registration.route r.modules r.registry with
      | error error =>
          rw [hroute] at hresult
          simp [Reply.andThen, hresult, Except.map] at h
      | ok route =>
          rw [hroute] at hresult
          have hrouter := register_router hopen hroute
          simp only [Reply.andThen, hresult, Except.map, hrouter] at h ⊢
          obtain ⟨routes, hroutes, hlast⟩ :=
            ih (r := { r with routes := r.routes ++ [route] }) hopen h
          refine ⟨route :: routes, .cons hroute hroutes, ?_⟩
          rw [hlast]
          simp

/-! ## Building -/

def Builds (r : Router) : Prop := ∃ table, r.build.result = .ok table

theorem builds_of_toBool {r : Router} (h : r.build.result.toBool = true) : r.Builds := by
  cases hbuild : r.build.result with
  | error error => simp [hbuild, Except.toBool] at h
  | ok table => exact ⟨table, hbuild⟩

theorem build_result {r : Router} (hopen : r.table = none) :
    r.build.result = (Table.build r.routes r.basePath r.compiler).1.mapError .table := by
  rw [build, hopen]
  obtain ⟨result, last⟩ := Table.build r.routes r.basePath r.compiler
  cases result <;> rfl

theorem find_of_build {r : Router} {t : Table} (h : r.build.result = .ok t) (method path : String) :
    (r.find method path).result = (t.find method path).mapError .engine := by
  rw [find, Reply.andThen, h]

theorem find_of_error {r : Router} {error : RouterError} (h : r.build.result = .error error)
    (method path : String) : (r.find method path).result = .error error := by
  rw [find, Reply.andThen, h]

theorem url_of_error {r : Router} {error : RouterError} (h : r.build.result = .error error)
    (name : String) (params : Pairs Value) : (r.url name params).result = .error error := by
  rw [url, Reply.andThen, h]

end Router

end HttpRouting
