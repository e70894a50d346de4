import HttpRouting.Proofs.Router.Calls

/-!
# Freezing

A router is open, and so are all of its routes, or it is compiled and exactly
as the build left it.  Only a change of the base path opens a compiled router
again.  Routes stay at their places all the time, and so do names once given.
-/

namespace HttpRouting

/-! ## Routes in the course of time -/

/-- A route may be named once, and constrained, frozen and thawed; the rest of it stays. -/
structure Route.Becomes (route later : Route) : Prop where
  methods : later.methods = route.methods
  uri : later.uri = route.uri
  action : later.action = route.action
  name : ∀ name, route.name = some name → later.name = some name

theorem Route.Becomes.refl (route : Route) : route.Becomes route := ⟨rfl, rfl, rfl, fun _ h => h⟩

theorem Route.Becomes.trans {route middle later : Route} (h : route.Becomes middle)
    (h' : middle.Becomes later) : route.Becomes later where
  methods := h'.methods.trans h.methods
  uri := h'.uri.trans h.uri
  action := h'.action.trans h.action
  name := fun name hname => h'.name name (h.name name hname)

theorem Adjustment.becomes {a : Adjustment} {route next : Route} (h : a.apply route = .ok next) :
    route.Becomes next := by
  cases a with
  | name given =>
      simp only [apply, Route.rename] at h
      split at h
      next => simp at h
      next =>
        split at h
        next => simp at h
        next hunnamed =>
          obtain rfl := Except.ok.inj h
          exact ⟨rfl, rfl, rfl, by simp [hunnamed]⟩
  | constraint c =>
      simp only [apply, Route.constrain] at h
      split at h
      next => simp at h
      next =>
        split at h <;> simp only [Except.ok.injEq, reduceCtorEq] at h <;> subst h <;>
          exact ⟨rfl, rfl, rfl, fun _ hname => hname⟩

theorem Adjustment.unfrozen {a : Adjustment} {route next : Route} (h : a.apply route = .ok next) :
    route.frozen = false ∧ next.frozen = false := by
  cases hfrozen : route.frozen with
  | true => cases a <;> simp [apply, Route.rename, Route.constrain, hfrozen] at h
  | false =>
      refine ⟨rfl, ?_⟩
      cases a with
      | name given =>
          simp only [apply, Route.rename, hfrozen] at h
          split at h
          next => simp at h
          next =>
            split at h
            next => simp at h
            next =>
              obtain rfl := Except.ok.inj h
              rfl
      | constraint c =>
          simp only [apply, Route.constrain, hfrozen] at h
          split at h
          next => simp at h
          next =>
            split at h <;> simp only [Except.ok.injEq, reduceCtorEq] at h <;> subst h <;> rfl

namespace Router

variable {r s u : Router} {operation : Operation}

/-- Every route of a router is at the same place in another one. -/
def Keeps (r s : Router) : Prop :=
  ∀ (place : Nat) (route : Route), r.routes[place]? = some route →
    ∃ later, s.routes[place]? = some later ∧ route.Becomes later

theorem keeps_of_routes (h : s.routes = r.routes) : r.Keeps s :=
  fun _ route hroute => ⟨route, by rw [h, hroute], .refl route⟩

theorem Keeps.trans (h : r.Keeps s) (h' : s.Keeps u) : r.Keeps u := by
  intro place route hroute
  obtain ⟨middle, hmiddle, hbecomes⟩ := h place route hroute
  obtain ⟨later, hlater, hbecomes'⟩ := h' place middle hmiddle
  exact ⟨later, hlater, hbecomes.trans hbecomes'⟩

theorem keeps_of_map {change : Route → Route} (hroutes : s.routes = r.routes.map change)
    (h : ∀ route, Route.Becomes route (change route)) : r.Keeps s := by
  intro place route hroute
  exact ⟨change route, by rw [hroutes, List.getElem?_map, hroute, Option.map_some], h route⟩

theorem Step.keeps (h : r.Step operation s) : r.Keeps s := by
  cases h with
  | stay => exact keeps_of_routes rfl
  | add methods uri action _ =>
      intro place route hroute
      obtain ⟨hplace, -⟩ := List.getElem?_eq_some_iff.mp hroute
      exact ⟨route, by rw [List.getElem?_append_left hplace, hroute], .refl route⟩
  | @adjust changed old next a hold happly =>
      intro place route hroute
      by_cases hplace : changed = place
      · subst hplace
        obtain rfl := Option.some.inj (hold.symm.trans hroute)
        obtain ⟨hlt, -⟩ := List.getElem?_eq_some_iff.mp hroute
        exact ⟨next, List.getElem?_set_self hlt, Adjustment.becomes happly⟩
      · exact ⟨route, by rw [List.getElem?_set_ne hplace, hroute], .refl route⟩
  | rebase path _ =>
      rw [setBasePath]
      dsimp only
      split
      next =>
        have hthawed (route : Route) : Route.Becomes route route.thaw := ⟨rfl, rfl, rfl, fun _ h => h⟩
        exact keeps_of_map rfl hthawed
      next => exact keeps_of_routes rfl
  | renumber _ _ => exact keeps_of_routes rfl
  | compile hopen hbuild _ =>
      exact keeps_of_map (build_of_ok hopen hbuild).2.1 fun _ => ⟨rfl, rfl, rfl, fun _ h => h⟩

theorem keeps_after (r : Router) (run : List Operation) : r.Keeps (r.after run) := by
  induction run generalizing r with
  | nil => exact keeps_of_routes rfl
  | cons operation rest ih => exact (step_perform r operation).keeps.trans (ih _)

/-! ## Open and compiled routers -/

structure IsUnfrozen (r : Router) : Prop where
  table : r.table = none
  routes : ∀ route ∈ r.routes, route.frozen = false

/-- A router as it is when another one, which was open, has just been compiled. -/
structure IsBuiltFrom (r : Router) (before : Router) (t : Table) : Prop where
  unfrozen : before.IsUnfrozen
  result : before.build.result = .ok t
  router : r = before.build.router

theorem IsBuiltFrom.table {t : Table} (h : r.IsBuiltFrom s t) : r.table = some t := by
  rw [h.router]
  exact (build_of_ok h.unfrozen.table h.result).1

theorem IsBuiltFrom.routes {t : Table} (h : r.IsBuiltFrom s t) :
    r.routes = s.routes.map Route.freeze := by
  rw [h.router]
  exact (build_of_ok h.unfrozen.table h.result).2.1

theorem IsBuiltFrom.frozen {t : Table} (h : r.IsBuiltFrom s t) :
    ∀ route ∈ r.routes, route.frozen = true := by
  rw [h.routes]
  rintro _ hroute
  obtain ⟨route, -, rfl⟩ := List.mem_map.mp hroute
  rfl

theorem Step.of_isUnfrozen (h : r.Step operation s) (hr : r.IsUnfrozen) :
    s.IsUnfrozen ∨ ∃ t, s.IsBuiltFrom r t := by
  cases h with
  | stay => exact .inl hr
  | add methods uri action _ =>
      refine .inl ⟨hr.table, fun route hroute => ?_⟩
      rcases List.mem_append.mp hroute with hroute | hroute
      · exact hr.routes route hroute
      · rw [List.mem_singleton.mp hroute, Route.make]
  | adjust a _ happly =>
      refine .inl ⟨hr.table, fun route hroute => ?_⟩
      rcases List.mem_or_eq_of_mem_set hroute with hroute | rfl
      · exact hr.routes route hroute
      · exact (Adjustment.unfrozen happly).2
  | rebase path _ =>
      rw [setBasePath, if_neg (by simp [Router.frozen, hr.table])]
      exact .inl ⟨hr.table, hr.routes⟩
  | renumber _ _ => exact .inl ⟨hr.table, hr.routes⟩
  | compile _ hbuild _ => exact .inr ⟨_, hr, hbuild, rfl⟩

theorem Step.of_isBuiltFrom {before : Router} {t : Table} (h : r.Step operation s)
    (hr : r.IsBuiltFrom before t) :
    s = r ∨ ∃ path, operation = .setBasePath path ∧ s.IsUnfrozen := by
  have htable := hr.table
  cases h with
  | stay => exact .inl rfl
  | adjust a hroute happly =>
      have hfrozen := hr.frozen _ (List.mem_of_getElem? hroute)
      simp [(Adjustment.unfrozen happly).1] at hfrozen
  | rebase path hpath =>
      refine .inr ⟨path, hpath, ?_⟩
      rw [setBasePath, if_pos (by simp [Router.frozen, htable])]
      refine ⟨rfl, fun route hroute => ?_⟩
      obtain ⟨old, -, rfl⟩ := List.mem_map.mp hroute
      rfl
  | add _ _ _ hopen => simp [htable] at hopen
  | renumber hopen _ => simp [htable] at hopen
  | compile hopen _ _ => simp [htable] at hopen

theorem IsUnfrozen.after (hr : r.IsUnfrozen) (run : List Operation) :
    (r.after run).IsUnfrozen ∨ ∃ t first last, run = first ++ last ∧
      (r.after run).IsBuiltFrom (r.after first) t := by
  induction run using List.reverseRecOn with
  | nil => exact .inl hr
  | append_singleton run operation ih =>
      have hstep : (r.after run).Step operation (r.after (run ++ [operation])) := by
        rw [after_append]
        exact step_perform _ operation
      rcases ih with hopen | ⟨t, first, last, rfl, hbuilt⟩
      · rcases hstep.of_isUnfrozen hopen with hopen' | ⟨t, hbuilt⟩
        · exact .inl hopen'
        · exact .inr ⟨t, run, [operation], rfl, hbuilt⟩
      · rcases hstep.of_isBuiltFrom hbuilt with hsame | ⟨path, -, hopen⟩
        · rw [hsame]
          exact .inr ⟨t, first, last ++ [operation], by rw [List.append_assoc], hbuilt⟩
        · exact .inl hopen

theorem IsBuiltFrom.after {before : Router} {t : Table} (h : r.IsBuiltFrom before t)
    {run : List Operation} (hrun : ∀ path, Operation.setBasePath path ∉ run) : r.after run = r := by
  induction run with
  | nil => rfl
  | cons operation rest ih =>
      rcases (step_perform r operation).of_isBuiltFrom h with hsame | ⟨path, rfl, -⟩
      · rw [Router.after, List.foldl_cons, hsame, ← Router.after]
        exact ih fun path hmem => hrun path (List.mem_cons_of_mem _ hmem)
      · exact absurd List.mem_cons_self (hrun path)

theorem isUnfrozen_make {settings : Settings} {modules : Modules} {registry : Option Registry}
    (h : make settings modules registry = .ok r) : r.IsUnfrozen := by
  obtain ⟨hroutes, htable, -⟩ := make_eq h
  exact ⟨htable, by simp [hroutes]⟩

/--
Whatever calls are made, a router without a table has routes that are not
frozen, and a router with one has frozen routes and is as it was when some
operation compiled the table.  Further calls keep the routes at their places
and the names that have been given, and do nothing to a compiled router unless
they set the base path.
-/
theorem frozen_with_table {settings : Settings} {modules : Modules} {registry : Option Registry}
    {new : Router} (hmake : make settings modules registry = .ok new) (calls more : List Call) :
    let r := new.afterCalls calls
    let s := r.afterCalls more
    ((r.table = none ∧ ∀ route ∈ r.routes, route.frozen = false) ∨
      ∃ t first last, new.runOf calls = first ++ last ∧
        let before := new.after first
        before.table = none ∧ before.build.result = .ok t ∧
          r.routes = before.routes.map Route.freeze ∧
          r.table = some t ∧ (∀ route ∈ r.routes, route.frozen = true) ∧
          r.routes = t.routes.map Route.freeze ∧ t.basePath = r.basePath) ∧
    (∀ (place : Nat) (route : Route), r.routes[place]? = some route →
      ∃ later, s.routes[place]? = some later ∧ later.methods = route.methods ∧ later.uri = route.uri ∧
        later.action = route.action ∧
        ∀ name, route.name = some name → later.name = some name) ∧
    ∀ t, r.table = some t → (∀ path, Operation.setBasePath path ∉ r.runOf more) →
      s = r ∧ s.build.result = .ok t := by
  intro r s
  have hruns : r = new.after (new.runOf calls) := afterCalls_eq new calls
  have hstate := (isUnfrozen_make hmake).after (new.runOf calls)
  rw [← hruns] at hstate
  refine ⟨?_, fun place route hroute => ?_, fun t ht hmore => ?_⟩
  · rcases hstate with hopen | ⟨t, first, last, hrun, hbuilt⟩
    · exact .inl ⟨hopen.table, hopen.routes⟩
    · obtain ⟨-, -, hbase, hroutes, hbase'⟩ :=
        build_of_ok hbuilt.unfrozen.table hbuilt.result
      refine .inr ⟨t, first, last, hrun, hbuilt.unfrozen.table, hbuilt.result, hbuilt.routes,
        hbuilt.table, hbuilt.frozen, ?_, ?_⟩
      · rw [hroutes]
        exact hbuilt.routes
      · rw [hbase', hbuilt.router, hbase]
  · have hkeeps : r.Keeps s := by
      rw [show s = r.after (r.runOf more) from afterCalls_eq r more]
      exact keeps_after r _
    obtain ⟨later, hlater, hbecomes⟩ := hkeeps place route hroute
    exact ⟨later, hlater, hbecomes.methods, hbecomes.uri, hbecomes.action, hbecomes.name⟩
  · rcases hstate with hopen | ⟨t', first, last, -, hbuilt⟩
    · simp [hopen.table] at ht
    · have hsame : s = r := by
        rw [show s = r.after (r.runOf more) from afterCalls_eq r more]
        exact hbuilt.after hmore
      refine ⟨hsame, ?_⟩
      rw [hsame, build, ht]

/-- A constraint is corrected after a failed build, and what is tried after the next one is refused. -/
theorem frozen_with_table_corrected :
    let posts : Call := .group "posts" [.map ["get"] "/{id}" (.value .null),
      .group "old" [.map ["post"] "" (.value .null), .operation .build]]
    let calls := [posts, .operation (.adjust 0 (.constraint (.single (some "id") (some "[0-9")))),
      .operation .build, .operation (.adjust 0 (.name (some "show"))),
      .operation (.setBasePath "blog"),
      .operation (.adjust 0 (.constraint (.single (some "id") (some "[0-9]+")))),
      .operation (.find "GET" "/blog/posts/1")]
    let more := [posts, .has (some "show"), .operation (.adjust 1 (.name (some "late"))),
      .operation (.url "show" ⟨[("id", .int 1)]⟩)]
    let r := fresh.afterCalls calls
    let s := r.afterCalls more
    make {} ∅ none = .ok fresh ∧ r.routes.length = 2 ∧ r.basePath = "/blog/" ∧
      (∀ route ∈ r.routes, route.frozen = true) ∧ s = r ∧ s.Builds := by
  intro posts calls more r s
  have hroutes : r.routes.length = 2 := by decide +kernel
  have hbase : r.basePath = "/blog/" := by decide +kernel
  obtain ⟨t, htable⟩ := Option.isSome_iff_exists.mp (show r.table.isSome = true by decide +kernel)
  have hkept : (r.runOf more).all (fun | .setBasePath _ => false | _ => true) = true := by
    decide +kernel
  obtain ⟨hstate, -, hmore⟩ := frozen_with_table make_fresh calls more
  obtain ⟨hsame, hresult⟩ := hmore t htable fun path hpath => by
    simpa using List.all_eq_true.mp hkept _ hpath
  refine ⟨rfl, hroutes, hbase, ?_, hsame, t, hresult⟩
  rcases hstate with ⟨hopen, -⟩ | ⟨_, _, _, -, -, -, -, -, hfrozen, -⟩
  · exact absurd (hopen.symm.trans htable) (by simp)
  · exact hfrozen

end Router

end HttpRouting
