import HttpRouting.Operation
import HttpRouting.Proofs.Router.Registration
import HttpRouting.Proofs.Table.Serving

/-!
# Reachable routers

Whatever is done to a router, its templates stay trimmed, and the table of a
compiled router is the one that its routes and its base path make, since the
routes are frozen together with it.
-/

namespace HttpRouting

open Table (addRoutes Stands)

/-! ## Routers after operations -/

theorem Reply.andThen_router {α β : Type} (reply : Reply α) {next : α → Router → Reply β}
    (h : ∀ answer r, (next answer r).router = r) : (reply.andThen next).router = reply.router := by
  unfold Reply.andThen
  split
  next => rfl
  next answer _ => exact h answer reply.router

theorem Reply.andThen_answer {α β : Type} (reply : Reply α) (f : α → Except RouterError β) :
    reply.andThen (fun answer r => ⟨f answer, r, [], none⟩) =
      { reply with result := reply.result.bind f } := by
  rcases reply with ⟨result, r, warnings, call⟩
  cases result with
  | error error => rfl
  | ok answer => simp [andThen, Except.bind]

namespace Router

theorem find_router (r : Router) (method path : String) :
    (r.find method path).router = r.build.router :=
  Reply.andThen_router _ fun _ _ => rfl

theorem url_router (r : Router) (name : String) (params : Pairs Value) :
    (r.url name params).router = r.build.router :=
  Reply.andThen_router _ fun _ _ => rfl

theorem respond_router (r : Router) (request : Request) :
    (r.respond request).router = r.build.router := by
  refine (Reply.andThen_router _ fun found r => ?_).trans (r.find_router request.method request.path)
  dsimp only
  split <;> rfl

theorem serve_of_request {environ : Http.Environ} {request : Request}
    (h : environ.request = .ok request) (r : Router) :
    r.serve environ = (r.respond request).andThen fun response r =>
      ⟨response.send.mapError .unsizedBody, r, [], none⟩ := by
  rw [serve, h]

theorem serve_router_of_request {environ : Http.Environ} {request : Request}
    (h : environ.request = .ok request) (r : Router) :
    (r.serve environ).router = r.build.router := by
  rw [serve_of_request h]
  exact (Reply.andThen_router _ fun _ _ => rfl).trans (r.respond_router request)

theorem serve_of_request_error {environ : Http.Environ} {error : Http.EnvironError}
    (h : environ.request = .error error) (r : Router) :
    r.serve environ = ⟨.error (.environ error), r, [], none⟩ := by
  rw [serve, h]

theorem serve_router (r : Router) (environ : Http.Environ) :
    (r.serve environ).router = r ∨ (r.serve environ).router = r.build.router := by
  cases h : environ.request with
  | error error =>
      rw [serve_of_request_error h]
      exact .inl rfl
  | ok request => exact .inr (serve_router_of_request h r)

end Router

/-! ## Frozen routes -/

theorem Table.addRoutes_map (change : Route → Route) (hmethods : ∀ route, (change route).methods = route.methods)
    (huri : ∀ route, (change route).uri = route.uri) (hname : ∀ route, (change route).name = route.name)
    (hconstraints : ∀ route, (change route).constraints = route.constraints) (place : Nat)
    (routes : List Route) (e : Engine Nat) (compiler : Template.Compiler) :
    addRoutes place (routes.map change) e compiler = addRoutes place routes e compiler := by
  induction routes generalizing place e compiler with
  | nil => rfl
  | cons route rest ih =>
      simp only [List.map_cons, addRoutes, addForms, hmethods, huri, hname, hconstraints, ih]

theorem Table.addRoutes_freeze (place : Nat) (routes : List Route) (e : Engine Nat)
    (compiler : Template.Compiler) :
    addRoutes place (routes.map Route.freeze) e compiler = addRoutes place routes e compiler :=
  addRoutes_map Route.freeze (fun _ => rfl) (fun _ => rfl) (fun _ => rfl) (fun _ => rfl) ..

theorem Table.addRoutes_stem (place : Nat) (routes : List Route) (e : Engine Nat)
    (compiler : Template.Compiler) : (addRoutes place routes e compiler).2.stem = compiler.stem := by
  induction routes generalizing place e compiler with
  | nil => rfl
  | cons route rest ih =>
      have hstem : (compiler.compile route.uri route.constraints).2.stem = compiler.stem :=
        Template.Compiler.tagPieces_stem route.constraints (Template.scan route.uri.toList) compiler
      simp only [addRoutes]
      split
      next => rw [ih, hstem]
      next => exact hstem

/-! ## The invariant -/

namespace Router

/-- A table is the one that the routes make with some compiler, and its routes are frozen. -/
structure IsConsistent (r : Router) : Prop where
  writable : r.compiler.IsWritable
  trimmed : ∀ route ∈ r.routes, Path.IsTrimmed route.uri.toList
  frozen : ∀ t, r.table = some t → ∀ route ∈ r.routes, route.frozen = true
  compiled : ∀ t, r.table = some t → ∃ compiler : Template.Compiler, compiler.IsWritable ∧
    (addRoutes 0 r.routes { basePath := r.basePath } compiler).1 = .ok t.engine

theorem isConsistent_of_open {r : Router} (hopen : r.table = none) (hwritable : r.compiler.IsWritable)
    (htrimmed : ∀ route ∈ r.routes, Path.IsTrimmed route.uri.toList) : r.IsConsistent where
  writable := hwritable
  trimmed := htrimmed
  frozen := by simp [hopen]
  compiled := by simp [hopen]

theorem isConsistent_make {settings : Settings} {modules : Modules} {registry : Option Registry}
    {r : Router} (h : make settings modules registry = .ok r) : r.IsConsistent := by
  obtain ⟨path, -, rfl⟩ := exists_of_make h
  exact isConsistent_of_open rfl Template.Compiler.isWritable_default (by simp)

section

variable {r : Router} (h : r.IsConsistent)

include h

theorem IsConsistent.map (methods : List String) (uri : String) (target : Target) :
    (Reply.ofChange r (r.map methods uri target)).router.IsConsistent := by
  cases htable : r.table with
  | some t =>
      rw [Router.map, if_pos (by simp [Router.frozen, htable])]
      exact h
  | none =>
      rw [map_eq htable]
      cases Action.resolve r.modules r.registry target with
      | error error => exact h
      | ok action =>
          refine isConsistent_of_open htable h.writable fun route hroute => ?_
          rcases List.mem_append.mp hroute with hroute | hroute
          · exact h.trimmed route hroute
          · rw [List.mem_singleton.mp hroute]
            exact Path.isTrimmed_trimSlashes uri

theorem IsConsistent.adjust (place : Nat) (a : Adjustment) :
    (Reply.ofChange r (r.adjustRoute place a)).router.IsConsistent := by
  cases hroute : r.routes[place]? with
  | none =>
      rw [adjustRoute_of_none hroute]
      exact h
  | some route =>
      rw [adjustRoute_eq hroute]
      cases happly : a.apply route with
      | error error => exact h
      | ok next =>
          cases htable : r.table with
          | some t =>
              -- A compiled router has frozen routes only, and these refuse to be adjusted.
              have hfrozen := h.frozen t htable route (List.mem_of_getElem? hroute)
              cases a <;> simp [Adjustment.apply, Route.rename, Route.constrain, hfrozen] at happly
          | none =>
              refine isConsistent_of_open rfl h.writable fun other hother => ?_
              rcases List.mem_or_eq_of_mem_set hother with hother | rfl
              · exact h.trimmed other hother
              · rw [Adjustment.apply_uri happly]
                exact h.trimmed route (List.mem_of_getElem? hroute)

theorem IsConsistent.setBasePath (path : String) : (r.setBasePath path).IsConsistent := by
  rw [Router.setBasePath]
  cases htable : r.table with
  | none =>
      rw [if_neg (by simp [Router.frozen])]
      exact isConsistent_of_open rfl h.writable h.trimmed
  | some t =>
      rw [if_pos (by simp [Router.frozen])]
      refine isConsistent_of_open rfl h.writable fun route hroute => ?_
      obtain ⟨old, hold, rfl⟩ := List.mem_map.mp hroute
      exact h.trimmed old hold

theorem IsConsistent.build : r.build.router.IsConsistent := by
  cases htable : r.table with
  | some t =>
      rw [Router.build, htable]
      exact h
  | none =>
      have hwritable : (Table.build r.routes r.basePath r.compiler).2.IsWritable := by
        have hstem : (Table.build r.routes r.basePath r.compiler).2.stem = r.compiler.stem :=
          Table.addRoutes_stem ..
        rw [Template.Compiler.IsWritable, hstem]
        exact h.writable
      rw [Router.build, htable]
      rcases hbuild : Table.build r.routes r.basePath r.compiler with ⟨result, last⟩
      rw [hbuild] at hwritable
      cases result with
      | error error => exact isConsistent_of_open rfl hwritable h.trimmed
      | ok t =>
          obtain ⟨next, hnext, rfl⟩ := Table.exists_engine_of_build (congrArg Prod.fst hbuild)
          refine ⟨hwritable, fun route hroute => ?_, fun _ _ route hroute => ?_, ?_⟩
          · obtain ⟨old, hold, rfl⟩ := List.mem_map.mp hroute
            exact h.trimmed old hold
          · obtain ⟨old, -, rfl⟩ := List.mem_map.mp hroute
            rfl
          · rintro other ⟨⟩
            exact ⟨r.compiler, h.writable, by rw [Table.addRoutes_freeze]; exact hnext⟩

end

theorem IsConsistent.perform {r : Router} (h : r.IsConsistent) (operation : Operation) :
    (operation.perform r).router.IsConsistent := by
  cases operation with
  | map methods uri target => exact h.map methods uri target
  | adjust place a => exact h.adjust place a
  | setBasePath path => exact h.setBasePath path
  | build => exact h.build
  | find method path =>
      rw [show (Operation.find method path).perform r = (r.find method path).forget from rfl,
        Reply.forget, find_router]
      exact h.build
  | url name params =>
      rw [show (Operation.url name params).perform r = (r.url name params).forget from rfl,
        Reply.forget, url_router]
      exact h.build
  | respond request =>
      rw [show (Operation.respond request).perform r = (r.respond request).forget from rfl,
        Reply.forget, respond_router]
      exact h.build
  | serve environ =>
      rw [show (Operation.serve environ).perform r = (r.serve environ).forget from rfl,
        Reply.forget]
      rcases r.serve_router environ with hsame | hbuild
      · rw [hsame]
        exact h
      · rw [hbuild]
        exact h.build

theorem Reachable.isConsistent {r : Router} (h : r.Reachable) : r.IsConsistent := by
  induction h with
  | new hmake => exact isConsistent_make hmake
  | perform operation _ ih => exact ih.perform operation

/-! ## A router with one route -/

def single (uri name param regex : String) : Router :=
  fresh.after [.map ["GET"] uri (.value .null), .adjust 0 (.name (some name)),
    .adjust 0 (.constraint (.single (some param) (some regex)))]

def singleRoute (uri name param regex : String) : Route :=
  { Route.make ["GET"] uri (.other .null) with
    name := some name
    constraints := ⟨[(param, regex)]⟩ }

theorem reachable_single (uri name param regex : String) : (single uri name param regex).Reachable :=
  (Reachable.new make_fresh).after _

theorem routes_single (uri name param regex : String) :
    (single uri name param regex).routes = [singleRoute uri name param regex] := rfl

theorem mem_methods_singleRoute (uri name param regex : String) :
    "GET" ∈ (singleRoute uri name param regex).methods := by
  have hmethod : "GET" ∈ (["GET"].map Text.upper).eraseDups := by decide
  exact hmethod

theorem hasPlainConstraints_single {regex : String} (h : Regex.Expression.IsPlainText regex)
    (uri name param : String) :
    ∀ route ∈ (single uri name param regex).routes, route.HasPlainConstraints := by
  rw [routes_single, List.forall_mem_singleton]
  exact List.forall_mem_singleton.mpr h

end Router

end HttpRouting
