import HttpRouting.Proofs.Router.Freezing
import HttpRouting.Proofs.Router.History

/-!
# Calls that are refused

A registration, an adjustment or a build that fails changes nothing of a router
but the numbers of the tags to come.  Whatever is called later, the router then
answers as if the failed call had not been made, up to these numbers.
-/

namespace HttpRouting

/-- Whether an error refuses a registration, an adjustment or a build. -/
def RouterError.isRefusal : RouterError → Bool
  | tableFrozen | resolve _ | route _ | table _ => true
  | _ => false

theorem Reply.andThen_error {α β : Type} {reply : Reply α} {next : α → Router → Reply β}
    {error : RouterError} (h : (reply.andThen next).result = .error error) :
    reply.result = .error error ∨
      ∃ answer, reply.result = .ok answer ∧ (next answer reply.router).result = .error error := by
  unfold andThen at h
  split at h
  next cause hcause =>
    obtain rfl := Except.error.inj h
    exact .inl hcause
  next answer hanswer => exact .inr ⟨answer, hanswer, h⟩

theorem Reply.forget_error {α : Type} {reply : Reply α} {error : RouterError}
    (h : reply.forget.result = .error error) : reply.result = .error error := by
  cases hresult : reply.result with
  | error cause => simpa [forget, hresult, Except.map] using h
  | ok answer => simp [forget, hresult, Except.map] at h

namespace Router

/-! ## Failures of single operations -/

section

variable {r : Router} {error : RouterError} (hrefusal : error.isRefusal = true)

include hrefusal

theorem ne_of_isRefusal {cause : RouterError} (h : cause.isRefusal = false) : error ≠ cause := by
  rintro rfl
  simp [hrefusal] at h

theorem mapError_ne {ε α : Type} {f : ε → RouterError} (hf : ∀ cause, (f cause).isRefusal = false)
    (x : Except ε α) : x.mapError f ≠ .error error := by
  cases x with
  | ok a => simp [Except.mapError]
  | error cause =>
      intro h
      exact ne_of_isRefusal hrefusal (hf cause) (Except.error.inj h).symm

theorem build_of_find (method path : String) (h : (r.find method path).result = .error error) :
    r.build.result = .error error := by
  rcases Reply.andThen_error h with hbuild | ⟨t, -, hfind⟩
  · exact hbuild
  · exact absurd hfind (mapError_ne hrefusal (fun _ => rfl) _)

theorem checkConstraints_ne (constraints : Pairs String) (name : String)
    (params : List (String × Value)) : checkConstraints constraints name params ≠ .error error := by
  induction params with
  | nil => simp [checkConstraints]
  | cons entry rest ih =>
      rw [checkConstraints]
      split
      next => exact ih
      next regex _ =>
        cases hmatch : Engine.matchesType regex entry.2.plain with
        | error cause =>
            intro h
            exact ne_of_isRefusal hrefusal rfl (Except.error.inj h).symm
        | ok fits =>
            cases fits with
            | true => exact ih
            | false =>
                intro h
                exact ne_of_isRefusal hrefusal rfl (Except.error.inj h).symm

theorem generate_ne (t : Table) (name : String) (params : Pairs Value) :
    generate t name params ≠ .error error := by
  intro h
  unfold generate at h
  split at h
  next => simp at h
  next => exact ne_of_isRefusal hrefusal rfl (Except.error.inj h).symm
  next => exact ne_of_isRefusal hrefusal rfl (Except.error.inj h).symm

theorem build_of_url (name : String) (params : Pairs Value)
    (h : (r.url name params).result = .error error) : r.build.result = .error error := by
  rcases Reply.andThen_error h with hbuild | ⟨t, -, hurl⟩
  · exact hbuild
  · simp only [bind, Except.bind] at hurl
    split at hurl
    next cause hchecks =>
      obtain rfl := Except.error.inj hurl
      exact absurd hchecks (checkConstraints_ne hrefusal _ _ _)
    next => exact absurd hurl (generate_ne hrefusal t name params)

theorem build_of_respond (request : Request) (h : (r.respond request).result = .error error) :
    r.build.result = .error error := by
  rcases Reply.andThen_error h with hfind | ⟨found, -, hrespond⟩
  · exact build_of_find hrefusal _ _ hfind
  · dsimp only at hrespond
    split at hrespond
    next => simp at hrespond
    next => exact absurd hrespond (mapError_ne hrefusal (fun _ => rfl) _)

theorem build_of_serve (environ : Http.Environ) (h : (r.serve environ).result = .error error) :
    r.build.result = .error error ∧ (r.serve environ).router = r.build.router := by
  cases hrequest : environ.request with
  | error cause =>
      rw [serve_of_request_error hrequest] at h
      exact absurd (Except.error.inj h).symm (ne_of_isRefusal hrefusal rfl)
  | ok request =>
      refine ⟨?_, serve_router_of_request hrequest r⟩
      rw [serve_of_request hrequest] at h
      rcases Reply.andThen_error h with hrespond | ⟨response, -, hsend⟩
      · exact build_of_respond hrefusal request hrespond
      · exact absurd hsend (mapError_ne hrefusal (fun _ => rfl) _)

end

theorem build_router_of_error {r : Router} {error : RouterError} (h : r.build.result = .error error) :
    r.build.router = { r with compiler := r.build.router.compiler } := by
  unfold build at h ⊢
  split
  next ht => simp [ht] at h
  next ht =>
    split
    next => rfl
    next hbuild => simp [ht, hbuild] at h

theorem build_keeps (r : Router) : r.build.router.settings = r.settings ∧
    r.build.router.modules = r.modules ∧ r.build.router.registry = r.registry := by
  unfold build
  split
  next => exact ⟨rfl, rfl, rfl⟩
  next => split <;> exact ⟨rfl, rfl, rfl⟩

/-- An operation that is refused hands out tags at most. -/
theorem perform_refused {r : Router} {operation : Operation} {error : RouterError}
    (h : (operation.perform r).result = .error error) (hrefusal : error.isRefusal = true) :
    (operation.perform r).router =
      { r with compiler := (operation.perform r).router.compiler } := by
  have hchange {changed : Except RouterError Router}
      (h : (Reply.ofChange r changed).result = .error error) :
      (Reply.ofChange r changed).router = r := by
    cases changed with
    | ok next => simp [Reply.ofChange] at h
    | error cause => rfl
  have hbuild (hresult : r.build.result = .error error)
      (hrouter : (operation.perform r).router = r.build.router) :
      (operation.perform r).router =
        { r with compiler := (operation.perform r).router.compiler } := by
    rw [hrouter]
    exact build_router_of_error hresult
  cases operation with
  | map methods uri target =>
      have hsame : ((Operation.map methods uri target).perform r).router = r := hchange h
      rw [hsame]
  | adjust place a =>
      have hsame : ((Operation.adjust place a).perform r).router = r := hchange h
      rw [hsame]
  | setBasePath path => simp [Operation.perform, Reply.ofChange] at h
  | build => exact hbuild (Reply.forget_error h) rfl
  | find method path =>
      exact hbuild (build_of_find hrefusal _ _ (Reply.forget_error h)) (r.find_router method path)
  | url name params =>
      exact hbuild (build_of_url hrefusal _ _ (Reply.forget_error h)) (r.url_router name params)
  | respond request =>
      exact hbuild (build_of_respond hrefusal _ (Reply.forget_error h)) (r.respond_router request)
  | serve environ =>
      obtain ⟨hresult, hrouter⟩ := build_of_serve hrefusal environ (Reply.forget_error h)
      exact hbuild hresult hrouter

/-! ## Failures within groups -/

mutual

theorem exists_failing : ∀ (call : Call) (group : Option Group) (r : Router) {error : RouterError},
    (call.perform group r).result = .error error →
      ∃ (done : List Operation) (failing : Operation), call.run group r = done ++ [failing] ∧
        (failing.perform (r.after done)).result = .error error
  | .operation o, group, r, error, h => by
      rw [Call.perform] at h
      exact ⟨[], o, by rw [Call.run, List.nil_append], h⟩
  | .map methods uri target, group, r, error, h => by
      rw [Call.perform] at h
      exact ⟨[], .map methods (Call.uriWithin group uri) target, by rw [Call.run, List.nil_append], h⟩
  | .has name, group, r, error, h => by
      rw [Call.perform] at h
      exact absurd (Reply.forget_error h) (by simp)
  | .group path body, group, r, error, h => by
      rw [Call.perform] at h
      rw [Call.run]
      exact exists_failing_of_all body _ r h

theorem exists_failing_of_all : ∀ (body : List Call) (group : Option Group) (r : Router)
    {error : RouterError}, (Call.performAll group body r).result = .error error →
      ∃ (done : List Operation) (failing : Operation), Call.runAll group body r = done ++ [failing] ∧
        (failing.perform (r.after done)).result = .error error
  | [], group, r, error, h => by
      simp [Call.performAll, Reply.ofChange] at h
  | call :: rest, group, r, error, h => by
      rw [Call.performAll] at h
      rw [Call.runAll]
      rcases Reply.andThen_error h with hfirst | ⟨answer, hanswer, hrest⟩
      · simp only [hfirst]
        exact exists_failing call group r hfirst
      · obtain ⟨done, failing, hrun, hfailing⟩ := exists_failing_of_all rest group _ hrest
        refine ⟨call.run group r ++ done, failing, ?_, ?_⟩
        · simp only [hanswer]
          rw [hrun, List.append_assoc]
        · rw [after_append, ← perform_router]
          exact hfailing

end

/-! ## Routers that differ in the numbers of tags -/

/-- Answers that differ at most in the numbers of tags that an error tells. -/
inductive SameAnswer {α : Type} : Except RouterError α → Except RouterError α → Prop
  | same (answer : Except RouterError α) : SameAnswer answer answer
  | table {error error' : TableError} : error.Resembles error' →
      SameAnswer (.error (.table error)) (.error (.table error'))

/-- Routers that differ at most in the numbers of tags, which a table does not keep. -/
structure Resembles (r s : Router) : Prop where
  settings : r.settings = s.settings
  modules : r.modules = s.modules
  registry : r.registry = s.registry
  basePath : r.basePath = s.basePath
  routes : r.routes = s.routes
  table : r.table.map (fun t => (t.basePath, t.routes)) = s.table.map fun t => (t.basePath, t.routes)

/-- Replies of routers that differ at most in the numbers of tags. -/
structure SameReply {α : Type} (reply other : Reply α) : Prop where
  result : SameAnswer reply.result other.result
  router : reply.router.Resembles other.router

theorem resembles_compiler (r : Router) (compiler : Template.Compiler) :
    r.Resembles { r with compiler := compiler } := ⟨rfl, rfl, rfl, rfl, rfl, rfl⟩

theorem SameAnswer.map {α β : Type} {x y : Except RouterError α} (h : SameAnswer x y) (f : α → β) :
    SameAnswer (x.map f) (y.map f) := by
  cases h with
  | same answer => exact .same _
  | table hsame => exact .table hsame

theorem SameReply.forget {α : Type} {x y : Reply α} (h : SameReply x y) :
    SameReply x.forget y.forget := ⟨h.result.map _, h.router⟩

theorem SameReply.andThen {α β : Type} {x y : Reply α} {next : α → Router → Reply β}
    (h : SameReply x y)
    (hnext : ∀ answer, x.result = .ok answer →
      SameReply (next answer x.router) (next answer y.router)) :
    SameReply (x.andThen next) (y.andThen next) := by
  obtain ⟨hresult, hrouter⟩ := h
  rcases x with ⟨result, r, warnings, call⟩
  rcases y with ⟨result', s, warnings', call'⟩
  cases hresult with
  | same =>
      cases result with
      | error error => exact ⟨.same _, hrouter⟩
      | ok answer => exact ⟨(hnext answer rfl).result, (hnext answer rfl).router⟩
  | table hsame => exact ⟨.table hsame, hrouter⟩

theorem sameReply_ofChange {r s : Router} (h : r.Resembles s) {changed changed' : Except RouterError Router}
    (hchanged : (∃ error, changed = .error error ∧ changed' = .error error) ∨
      ∃ next next', changed = .ok next ∧ changed' = .ok next' ∧ next.Resembles next') :
    SameReply (Reply.ofChange r changed) (Reply.ofChange s changed') := by
  rcases hchanged with ⟨error, rfl, rfl⟩ | ⟨next, next', rfl, rfl, hnext⟩
  · exact ⟨.same _, h⟩
  · exact ⟨.same _, hnext⟩

section

variable {r s : Router} (h : r.Resembles s)

include h

theorem Resembles.isSome : r.table.isSome = s.table.isSome := by
  simpa using congrArg Option.isSome h.table

theorem Resembles.alike : List.Forall₂ Route.Alike r.routes s.routes := by
  rw [h.routes]
  exact List.forall₂_same.mpr fun route _ => ⟨rfl, rfl, rfl, fun _ => rfl⟩

theorem Resembles.map (methods : List String) (uri : String) (target : Target) :
    SameReply (Reply.ofChange r (r.map methods uri target))
      (Reply.ofChange s (s.map methods uri target)) := by
  refine sameReply_ofChange h ?_
  have hresolve : Action.resolve r.modules r.registry target =
      Action.resolve s.modules s.registry target := by rw [h.modules, h.registry]
  rw [Router.map, Router.map, frozen, frozen, h.isSome, hresolve]
  split
  next => exact .inl ⟨_, rfl, rfl⟩
  next =>
    cases Action.resolve s.modules s.registry target with
    | error error => exact .inl ⟨_, rfl, rfl⟩
    | ok action =>
        exact .inr ⟨_, _, rfl, rfl, h.settings, h.modules, h.registry, h.basePath,
          congrArg (· ++ _) h.routes, h.table⟩

theorem Resembles.adjust (place : Nat) (a : Adjustment) :
    SameReply (Reply.ofChange r (r.adjustRoute place a))
      (Reply.ofChange s (s.adjustRoute place a)) := by
  refine sameReply_ofChange h ?_
  cases hroute : s.routes[place]? with
  | none =>
      have hroute' : r.routes[place]? = none := by rw [h.routes, hroute]
      exact .inr ⟨r, s, adjustRoute_of_none hroute' a, adjustRoute_of_none hroute a, h⟩
  | some route =>
      have hroute' : r.routes[place]? = some route := by rw [h.routes, hroute]
      rw [adjustRoute_eq hroute, adjustRoute_eq hroute']
      cases a.apply route with
      | error error => exact .inl ⟨_, rfl, rfl⟩
      | ok next =>
          exact .inr ⟨_, _, rfl, rfl, h.settings, h.modules, h.registry, h.basePath,
            congrArg (List.set · place next) h.routes, h.table⟩

theorem Resembles.setBasePath (path : String) :
    SameReply (Reply.ofChange r (.ok (r.setBasePath path)))
      (Reply.ofChange s (.ok (s.setBasePath path))) := by
  refine sameReply_ofChange h (.inr ⟨_, _, rfl, rfl, ?_⟩)
  rw [Router.setBasePath, Router.setBasePath]
  cases hs : s.table.isSome with
  | true =>
      rw [if_pos (by simpa [frozen] using h.isSome.trans hs), if_pos (by simpa [frozen] using hs)]
      exact ⟨h.settings, h.modules, h.registry, rfl, congrArg (List.map Route.thaw) h.routes, rfl⟩
  | false =>
      rw [if_neg (by simpa [frozen] using h.isSome.trans hs), if_neg (by simpa [frozen] using hs)]
      exact ⟨h.settings, h.modules, h.registry, rfl, h.routes, h.table⟩

/-! ## Operations of routers that resemble each other -/

section

variable (hr : r.Reachable) (hs : s.Reachable)
  (hbracket : ∀ route ∈ r.routes, '[' ∉ route.uri.toList)

include hr hs hbracket

theorem Resembles.build : SameAnswer r.build.forget.result s.build.forget.result ∧
    r.build.router.Resembles s.build.router := by
  cases htable : r.table with
  | some t =>
      obtain ⟨u, hu⟩ := Option.isSome_iff_exists.mp (h.isSome.symm.trans (by rw [htable]; rfl))
      rw [Router.build, Router.build, htable, hu]
      exact ⟨.same _, h⟩
  | none =>
      have htable' : s.table = none := by simpa [htable] using h.isSome
      by_cases hbuilds : r.Builds
      · obtain ⟨t, ht⟩ := hbuilds
        obtain ⟨u, hu⟩ := (builds_alike hr hs h.alike hbracket).mp ⟨t, ht⟩
        obtain ⟨htable, hroutes, hbase, htroutes, htbase⟩ := build_of_ok htable ht
        obtain ⟨hutable, huroutes, hubase, hutroutes, hutbase⟩ := build_of_ok htable' hu
        refine ⟨?_, ?_⟩
        · rw [Reply.forget, Reply.forget, ht, hu]
          exact .same _
        · obtain ⟨hsettings, hmodules, hregistry⟩ := r.build_keeps
          obtain ⟨hsettings', hmodules', hregistry'⟩ := s.build_keeps
          constructor
          · rw [hsettings, hsettings', h.settings]
          · rw [hmodules, hmodules', h.modules]
          · rw [hregistry, hregistry', h.registry]
          · rw [hbase, hubase, h.basePath]
          · rw [hroutes, huroutes, h.routes]
          · rw [htable, hutable, Option.map_some, Option.map_some, htroutes, htbase, hutroutes, hutbase,
              h.basePath, h.routes]
      · obtain ⟨error, error', hsame, hfails, hfails'⟩ :=
          exists_error_alike hr hs h.alike hbracket hbuilds
        refine ⟨?_, ?_⟩
        · rw [Reply.forget, Reply.forget, hfails, hfails']
          exact .table hsame
        · rw [build_router_of_error hfails, build_router_of_error hfails']
          exact ⟨h.settings, h.modules, h.registry, h.basePath, h.routes, h.table⟩

theorem Resembles.find (method path : String) :
    SameReply (r.find method path) (s.find method path) := by
  refine ⟨?_, ?_⟩
  · by_cases hbuilds : r.Builds
    · rw [find_alike hr hs h.alike hbracket h.basePath hbuilds]
      exact .same _
    · obtain ⟨error, error', hsame, hfails, hfails'⟩ :=
        exists_error_alike hr hs h.alike hbracket hbuilds
      rw [find_of_error hfails, find_of_error hfails']
      exact .table hsame
  · rw [find_router, find_router]
    exact (h.build hr hs hbracket).2

theorem Resembles.url (name : String) (params : Pairs Value) :
    SameReply (r.url name params) (s.url name params) := by
  refine ⟨?_, ?_⟩
  · by_cases hbuilds : r.Builds
    · rw [url_alike hr hs h.alike hbracket h.basePath hbuilds]
      exact .same _
    · obtain ⟨error, error', hsame, hfails, hfails'⟩ :=
        exists_error_alike hr hs h.alike hbracket hbuilds
      rw [url_of_error hfails, url_of_error hfails']
      exact .table hsame
  · rw [url_router, url_router]
    exact (h.build hr hs hbracket).2

theorem Resembles.respond (request : Request) :
    SameReply (r.respond request) (s.respond request) := by
  have hfind := h.find hr hs hbracket request.method request.path
  refine hfind.andThen fun found _ => ?_
  have hafter := hfind.router
  dsimp only
  rw [hafter.routes]
  split
  next =>
    refine ⟨?_, hafter⟩
    rw [notFound, notFound, hafter.settings]
    exact .same _
  next route params _ =>
    refine ⟨?_, hafter⟩
    have hwrap : (r.find request.method request.path).router.wrap =
        (s.find request.method request.path).router.wrap := by
      funext outcome
      cases outcome with
      | response response => rfl
      | value v => rw [wrap, wrap, hafter.settings]
    rw [hwrap]
    exact .same _

theorem Resembles.serve (environ : Http.Environ) :
    SameReply (r.serve environ) (s.serve environ) := by
  rw [Router.serve, Router.serve]
  split
  next => exact ⟨.same _, h⟩
  next request _ =>
    have hrespond := h.respond hr hs hbracket request
    exact hrespond.andThen fun _ _ => ⟨.same _, hrespond.router⟩

theorem Resembles.perform (operation : Operation) :
    SameReply (operation.perform r) (operation.perform s) := by
  cases operation with
  | map methods uri target => exact h.map methods uri target
  | adjust place a => exact h.adjust place a
  | setBasePath path => exact h.setBasePath path
  | build => exact ⟨(h.build hr hs hbracket).1, (h.build hr hs hbracket).2⟩
  | find method path => exact (h.find hr hs hbracket method path).forget
  | url name params => exact (h.url hr hs hbracket name params).forget
  | respond request => exact (h.respond hr hs hbracket request).forget
  | serve environ => exact (h.serve hr hs hbracket environ).forget

end

end

/-! ## Later calls -/

theorem Reachable.perform_call {r : Router} (h : r.Reachable) (call : Call) (group : Option Group) :
    (call.perform group r).router.Reachable := by
  rw [perform_router]
  exact h.after _

theorem Keeps.bracket {r s : Router} (h : r.Keeps s)
    (hbracket : ∀ route ∈ s.routes, '[' ∉ route.uri.toList) :
    ∀ route ∈ r.routes, '[' ∉ route.uri.toList := by
  intro route hroute
  obtain ⟨place, hplace⟩ := List.mem_iff_getElem?.mp hroute
  obtain ⟨later, hlater, hbecomes⟩ := h place route hplace
  rw [← hbecomes.uri]
  exact hbracket later (List.mem_of_getElem? hlater)

mutual

theorem Resembles.call : ∀ (call : Call) (group : Option Group) {r s : Router}, r.Resembles s →
    r.Reachable → s.Reachable →
    (∀ route ∈ (call.perform group r).router.routes, '[' ∉ route.uri.toList) →
      SameReply (call.perform group r) (call.perform group s)
  | .operation o, group, r, s, h, hr, hs, hbracket => by
      rw [Call.perform] at hbracket
      rw [Call.perform, Call.perform]
      exact h.perform hr hs ((keeps_after r [o]).bracket hbracket) o
  | .map methods uri target, group, r, s, h, hr, hs, _ => by
      rw [Call.perform, Call.perform]
      exact h.map methods _ target
  | .has name, group, r, s, h, hr, hs, _ => by
      rw [Call.perform, Call.perform]
      refine SameReply.forget ⟨?_, h⟩
      rw [has, has, h.routes]
      exact .same _
  | .group path body, group, r, s, h, hr, hs, hbracket => by
      rw [Call.perform] at hbracket
      rw [Call.perform, Call.perform]
      exact Resembles.calls body _ h hr hs hbracket

theorem Resembles.calls : ∀ (body : List Call) (group : Option Group) {r s : Router}, r.Resembles s →
    r.Reachable → s.Reachable →
    (∀ route ∈ (Call.performAll group body r).router.routes, '[' ∉ route.uri.toList) →
      SameReply (Call.performAll group body r) (Call.performAll group body s)
  | [], group, r, s, h, hr, hs, _ => by
      rw [Call.performAll, Call.performAll]
      exact ⟨.same _, h⟩
  | call :: rest, group, r, s, h, hr, hs, hbracket => by
      rw [Call.performAll, Reply.andThen] at hbracket
      have hr' := hr.perform_call call group
      have hs' := hs.perform_call call group
      rw [Call.performAll, Call.performAll]
      cases hresult : (call.perform group r).result with
      | error error =>
          simp only [hresult] at hbracket
          refine (Resembles.call call group h hr hs hbracket).andThen fun answer hanswer => ?_
          simp [hresult] at hanswer
      | ok answer =>
          simp only [hresult] at hbracket
          have hkeeps : (call.perform group r).router.Keeps
              (Call.performAll group rest (call.perform group r).router).router := by
            rw [performAll_router]
            exact keeps_after _ _
          have hfirst := Resembles.call call group h hr hs (hkeeps.bracket hbracket)
          exact hfirst.andThen fun _ _ => Resembles.calls rest group hfirst.router hr' hs' hbracket

end

theorem Resembles.afterCalls {r s : Router} (h : r.Resembles s) (hr : r.Reachable) (hs : s.Reachable)
    (later : List Call)
    (hbracket : ∀ route ∈ (r.afterCalls later).routes, '[' ∉ route.uri.toList) :
    (r.afterCalls later).Resembles (s.afterCalls later) := by
  induction later generalizing r s with
  | nil => exact h
  | cons call rest ih =>
      have hkeeps : (call.perform none r).router.Keeps (r.afterCalls (call :: rest)) := by
        rw [show r.afterCalls (call :: rest) = (call.perform none r).router.afterCalls rest from rfl,
          afterCalls_eq]
        exact keeps_after _ _
      have hfirst := Resembles.call call none h hr hs (hkeeps.bracket hbracket)
      exact ih hfirst.router (hr.perform_call call none) (hs.perform_call call none) hbracket

/--
A call that is refused changes nothing but the numbers of the tags to come: a
group keeps what the calls before the refused one have done, and any other call
leaves the router as it was.  Whatever is called later, the router ends as it
would without the refused call, and answers alike.
-/
theorem failed_calls_change_nothing {r : Router} (hr : r.Reachable) {group : Option Group}
    {call : Call} {error : RouterError} (hfails : (call.perform group r).result = .error error)
    (hrefusal : error.isRefusal = true) :
    ∃ (done : List Operation) (failing : Operation),
      call.run group r = done ++ [failing] ∧
      (failing.perform (r.after done)).result = .error error ∧
      ((∀ path body, call ≠ .group path body) → done = []) ∧
      let s := (call.perform group r).router
      let u := r.after done
      s = { u with compiler := s.compiler } ∧
      ∀ later : List Call, (∀ route ∈ (u.afterCalls later).routes, '[' ∉ route.uri.toList) →
        let s' := s.afterCalls later
        let u' := u.afterCalls later
        u'.Resembles s' ∧ (u'.Builds ↔ s'.Builds) ∧
          SameAnswer u'.build.forget.result s'.build.forget.result ∧
          (∀ method path, SameAnswer (u'.find method path).result (s'.find method path).result) ∧
          ∀ name params, SameAnswer (u'.url name params).result (s'.url name params).result := by
  obtain ⟨done, failing, hrun, hfailing⟩ := exists_failing call group r hfails
  refine ⟨done, failing, hrun, hfailing, fun hcall => ?_, ?_⟩
  · cases call with
    | group path body => exact absurd rfl (hcall path body)
    | has name => simp [Call.run] at hrun
    | _ =>
        rw [Call.run] at hrun
        exact (List.append_eq_singleton_iff.mp hrun.symm).elim And.left fun h => by simp at h
  · intro s u
    have hs : s = (failing.perform u).router := by
      rw [show s = r.after (call.run group r) from perform_router call group r, hrun, after_append]
      rfl
    have hsame : s = { u with compiler := s.compiler } := by
      rw [hs]
      exact perform_refused hfailing hrefusal
    refine ⟨hsame, fun later hbracket => ?_⟩
    intro s' u'
    have hu : u.Reachable := hr.after done
    have hreach : s.Reachable := hr.perform_call call group
    have hresembles : u.Resembles s := by
      rw [hsame]
      exact resembles_compiler u _
    have hafter : u'.Resembles s' := hresembles.afterCalls hu hreach later hbracket
    have hu' : u'.Reachable := hu.afterCalls later
    have hs' : s'.Reachable := hreach.afterCalls later
    exact ⟨hafter, builds_alike hu' hs' hafter.alike hbracket, (hafter.build hu' hs' hbracket).1,
      fun method path => (hafter.find hu' hs' hbracket method path).result,
      fun name params => (hafter.url hu' hs' hbracket name params).result⟩

/-- A group whose build fails keeps the route before it, and the first route is corrected later. -/
theorem failed_calls_change_nothing_group :
    let r := fresh.after [.map ["GET"] "posts/{id}" (.value .null),
      .adjust 0 (.constraint (.single (some "id") (some "[0-9")))]
    let call : Call := .group "old" [.map ["post"] "{id}" (.value .null),
      .group "files" [.operation .build]]
    let later : List Call :=
      [.operation (.adjust 0 (.constraint (.single (some "id") (some "[0-9]+"))))]
    let s := (call.perform none r).router
    let u := r.after [.map ["post"] "old/{id}" (.value .null)]
    s.compiler.next = 2 ∧ u.compiler.next = 1 ∧ s = { u with compiler := s.compiler } ∧
      (s.afterCalls later).Builds ∧
      ∀ method path, SameAnswer ((u.afterCalls later).find method path).result
        ((s.afterCalls later).find method path).result := by
  intro r call later s u
  have hr : r.Reachable := (Reachable.new make_fresh).after _
  have hrun : call.run none r = [.map ["post"] "old/{id}" (.value .null)] ++ [.build] := by
    have hposts : (Call.perform (some (Group.within none "old"))
        (.map ["post"] "{id}" (.value .null)) r).result = .ok () := rfl
    simp only [call, Call.run, Call.runAll, hposts]
    split <;> split <;> rfl
  have hrefused : (call.perform none r).result.mapError RouterError.isRefusal = .error true := by
    decide +kernel
  cases hfails : (call.perform none r).result with
  | ok answer => simp [hfails, Except.mapError] at hrefused
  | error error =>
      obtain ⟨done, failing, hdone, -, -, hsame, hlater⟩ :=
        failed_calls_change_nothing hr hfails (by simpa [hfails, Except.mapError] using hrefused)
      obtain ⟨rfl, -⟩ := List.append_inj' (hdone.symm.trans hrun) rfl
      obtain ⟨-, -, -, hfind, -⟩ := hlater later (by decide +kernel)
      exact ⟨by decide +kernel, by decide +kernel, hsame, builds_of_toBool (by decide +kernel), hfind⟩

end Router

end HttpRouting
