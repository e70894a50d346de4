import HttpRouting.Proofs.Router.Isolation
import HttpRouting.Proofs.Router.Reachability

/-!
# Calls of a program

A program uses a router through operations and through groups, whose callbacks
register routes under a path and may use the router meanwhile.  A group only
joins paths, so calls perform a run of operations, and what an operation can do
to a router is one of six steps.
-/

namespace HttpRouting

/-! ## Calls -/

/--
A call of a program: an operation, a registration of a route, a question, or a
group whose callback makes further calls until one fails.  A callback that
catches failures comes to the same as several groups.
-/
inductive Call where
  | operation (operation : Operation)
  | map (methods : List String) (uri : String) (target : Target)
  | has (name : Option String)
  | group (path : String) (body : List Call)

namespace Call

def uriWithin (group : Option Group) (uri : String) : String :=
  match group with
  | none => uri
  | some g => g.uri uri

mutual

def perform (group : Option Group) : Call → Router → Reply Unit
  | .operation o, r => o.perform r
  | .map methods uri target, r => .ofChange r (r.map methods (uriWithin group uri) target)
  | .has name, r => ({ result := .ok (r.has name), router := r } : Reply Bool).forget
  | .group path body, r => performAll (some (Group.within group path)) body r

def performAll (group : Option Group) : List Call → Router → Reply Unit
  | [], r => .ofChange r (.ok r)
  | call :: rest, r => (call.perform group r).andThen fun _ r => performAll group rest r

end

mutual

/-- The operations that a call performs. -/
def run (group : Option Group) : Call → Router → List Operation
  | .operation o, _ => [o]
  | .map methods uri target, _ => [.map methods (uriWithin group uri) target]
  | .has _, _ => []
  | .group path body, r => runAll (some (Group.within group path)) body r

def runAll (group : Option Group) : List Call → Router → List Operation
  | [], _ => []
  | call :: rest, r =>
    let reply := call.perform group r
    match reply.result with
    | .error _ => call.run group r
    | .ok _ => call.run group r ++ runAll group rest reply.router

end

end Call

namespace Router

def afterCalls (r : Router) (calls : List Call) : Router :=
  calls.foldl (fun r call => (call.perform none r).router) r

def runOf (r : Router) : List Call → List Operation
  | [] => []
  | call :: rest => call.run none r ++ runOf (call.perform none r).router rest

/-! ## Calls as runs -/

theorem after_append (r : Router) (first second : List Operation) :
    r.after (first ++ second) = (r.after first).after second := List.foldl_append

mutual

theorem perform_router : ∀ (call : Call) (group : Option Group) (r : Router),
    (call.perform group r).router = r.after (call.run group r)
  | .operation o, group, r => by
      rw [Call.perform, Call.run]
      rfl
  | .map methods uri target, group, r => by
      rw [Call.perform, Call.run]
      rfl
  | .has name, group, r => by
      rw [Call.perform, Call.run]
      rfl
  | .group path body, group, r => by
      rw [Call.perform, Call.run]
      exact performAll_router body _ r

theorem performAll_router : ∀ (body : List Call) (group : Option Group) (r : Router),
    (Call.performAll group body r).router = r.after (Call.runAll group body r)
  | [], group, r => by
      rw [Call.performAll, Call.runAll]
      rfl
  | call :: rest, group, r => by
      have hfirst := perform_router call group r
      rw [Call.performAll, Call.runAll, Reply.andThen]
      split
      next error herror => simpa only [herror] using hfirst
      next answer hanswer =>
        simp only [hanswer, after_append, ← hfirst]
        exact performAll_router rest group _

end

/-- What calls do to a router is what the operations do that they perform. -/
theorem afterCalls_eq (r : Router) (calls : List Call) :
    r.afterCalls calls = r.after (r.runOf calls) := by
  induction calls generalizing r with
  | nil => rfl
  | cons call rest ih =>
      rw [runOf, after_append, ← perform_router]
      exact ih _

theorem Reachable.afterCalls {r : Router} (h : r.Reachable) (calls : List Call) :
    (r.afterCalls calls).Reachable := by
  rw [afterCalls_eq]
  exact h.after _

/-! ## Steps -/

theorem build_of_ok {r : Router} {t : Table} (hopen : r.table = none) (h : r.build.result = .ok t) :
    r.build.router.table = some t ∧ r.build.router.routes = r.routes.map Route.freeze ∧
      r.build.router.basePath = r.basePath ∧ t.routes = r.routes ∧ t.basePath = r.basePath := by
  have hresult := build_result hopen
  rw [h] at hresult
  rcases hbuild : Table.build r.routes r.basePath r.compiler with ⟨result, last⟩
  rw [hbuild] at hresult
  cases result with
  | error error => simp [Except.mapError] at hresult
  | ok built =>
      obtain rfl : t = built := by simpa [Except.mapError] using hresult
      obtain ⟨engine, -, rfl⟩ := Table.exists_engine_of_build (congrArg Prod.fst hbuild)
      simp only [build, hopen, hbuild, and_self]

/-- What an operation can do to a router. -/
inductive Step (r : Router) (operation : Operation) : Router → Prop
  | stay : Step r operation r
  | add (methods : List String) (uri : String) (action : Action) : r.table = none →
      Step r operation { r with routes := r.routes ++ [.make methods uri action] }
  | adjust {place : Nat} {route next : Route} (a : Adjustment) :
      r.routes[place]? = some route → a.apply route = .ok next →
      Step r operation { r with routes := r.routes.set place next }
  | rebase (path : String) : operation = .setBasePath path →
      Step r operation (r.setBasePath path)
  | renumber {compiler : Template.Compiler} : r.table = none →
      compiler.stem = r.compiler.stem →
      Step r operation { r with compiler := compiler }
  | compile {t : Table} : r.table = none → r.build.result = .ok t →
      r.build.router.compiler.stem = r.compiler.stem →
      Step r operation r.build.router

section

variable (r : Router) (operation : Operation)

theorem step_build : r.Step operation r.build.router := by
  cases htable : r.table with
  | some t =>
      have hsame : r.build.router = r := by rw [build, htable]
      rw [hsame]
      exact .stay
  | none =>
      have hstem : (Table.build r.routes r.basePath r.compiler).2.stem = r.compiler.stem :=
        Table.addRoutes_stem ..
      have hresult := build_result htable
      rcases hbuild : Table.build r.routes r.basePath r.compiler with ⟨result, last⟩
      rw [hbuild] at hstem hresult
      cases result with
      | error error =>
          have hrouter : r.build.router = { r with compiler := last } := by
            rw [build, htable, hbuild]
          rw [hrouter]
          exact .renumber htable hstem
      | ok t =>
          have hlast : r.build.router.compiler = last := by rw [build, htable, hbuild]
          exact .compile htable hresult (by rw [hlast, hstem])

theorem step_map (methods : List String) (uri : String) (target : Target) :
    r.Step operation (Reply.ofChange r (r.map methods uri target)).router := by
  cases htable : r.table with
  | some t =>
      rw [map, if_pos (by simp [frozen, htable])]
      exact .stay
  | none =>
      rw [map_eq htable]
      cases Action.resolve r.modules r.registry target with
      | error error => exact .stay
      | ok action => exact .add methods uri action htable

theorem step_adjust (place : Nat) (a : Adjustment) :
    r.Step operation (Reply.ofChange r (r.adjustRoute place a)).router := by
  cases hroute : r.routes[place]? with
  | none =>
      rw [adjustRoute_of_none hroute]
      exact .stay
  | some route =>
      rw [adjustRoute_eq hroute]
      cases happly : a.apply route with
      | error error => exact .stay
      | ok next => exact .adjust a hroute happly

theorem step_perform : r.Step operation (operation.perform r).router := by
  cases operation with
  | map methods uri target => exact r.step_map _ methods uri target
  | adjust place a => exact r.step_adjust _ place a
  | setBasePath path => exact .rebase path rfl
  | build => exact r.step_build _
  | find method path =>
      have hrouter : ((Operation.find method path).perform r).router = r.build.router :=
        r.find_router method path
      rw [hrouter]
      exact r.step_build _
  | url name params =>
      have hrouter : ((Operation.url name params).perform r).router = r.build.router :=
        r.url_router name params
      rw [hrouter]
      exact r.step_build _
  | respond request =>
      have hrouter : ((Operation.respond request).perform r).router = r.build.router :=
        r.respond_router request
      rw [hrouter]
      exact r.step_build _
  | serve environ =>
      rcases r.serve_router environ with hrouter | hrouter
      · rw [show ((Operation.serve environ).perform r).router = r from hrouter]
        exact .stay
      · rw [show ((Operation.serve environ).perform r).router = r.build.router from hrouter]
        exact r.step_build _

end

/-- What every step preserves holds of all reachable routers, if it holds of new ones. -/
theorem Reachable.induct {P : Router → Prop} {r : Router} (h : r.Reachable)
    (hnew : ∀ r : Router, r.routes = [] → r.table = none → r.compiler = {} → P r)
    (hstep : ∀ r operation s, r.Step operation s → P r → P s) : P r := by
  induction h with
  | new hmake =>
      obtain ⟨hroutes, htable, hcompiler⟩ := make_eq hmake
      exact hnew _ hroutes htable hcompiler
  | perform operation _ ih => exact hstep _ operation _ (step_perform _ operation) ih

end Router

end HttpRouting
