import HttpRouting.Proofs.Router.Isolation
import HttpRouting.Proofs.Router.Serving

/-!
# What a reachable router looks up

Whatever has been done to a router, it builds if its routes compile, finds what
the first of its routes finds alone, and writes a URL as the last route of the
name would alone.  How often it was compiled before has no part in that.
-/

namespace HttpRouting

open Engine (Slot)
open Table (addRoutes firstAnswer)

/-- The URL of a route when there is no other route. -/
def Route.written (route : Route) (basePath name : String) (params : Pairs Value) :
    Except RouterError String :=
  match Slot.write name params route.canonicalSlots with
  | .ok text => .ok (basePath ++ .ofList text)
  | .error (.pattern _) => .error (.noNamedRoute name)
  | .error error => .error (.engine error)

namespace Router

variable {r : Router}

theorem Reachable.isTemplate (h : r.Reachable) (hbracket : ∀ route ∈ r.routes, '[' ∉ route.uri.toList) :
    ∀ route ∈ r.routes, route.IsTemplate := fun route hroute =>
  ⟨h.isConsistent.trimmed route hroute, hbracket route hroute⟩

theorem Reachable.isOpen (h : r.Reachable) (hbracket : ∀ route ∈ r.routes, '[' ∉ route.uri.toList)
    (hopen : r.table = none) : r.IsOpen :=
  ⟨hopen, h.isConsistent.writable, h.isTemplate hbracket⟩

theorem build_of_table {t : Table} (ht : r.table = some t) : r.build.result = .ok t := by
  rw [build, ht]

theorem Reachable.builds_iff (h : r.Reachable) (hbracket : ∀ route ∈ r.routes, '[' ∉ route.uri.toList) :
    r.Builds ↔ ∀ route ∈ r.routes, route.check = .ok () := by
  cases htable : r.table with
  | none => exact (h.isOpen hbracket htable).builds_iff
  | some t =>
      obtain ⟨compiler, hcompiler, hengine⟩ := h.isConsistent.compiled t htable
      refine iff_of_true ⟨t, build_of_table htable⟩ ?_
      rw [← Table.forM_check_eq_ok, ← Table.addRoutes_check
        (Engine.isReadyFor_new r.basePath hcompiler) (h.isTemplate hbracket), hengine]
      rfl

theorem Reachable.find_eq (h : r.Reachable) (hbracket : ∀ route ∈ r.routes, '[' ∉ route.uri.toList)
    (hbuilds : r.Builds) (method path : String) :
    (r.find method path).result = firstAnswer 0 (r.routes.map fun route =>
      (route.found r.basePath method path).mapError .engine) := by
  cases htable : r.table with
  | none => exact (h.isOpen hbracket htable).find hbuilds method path
  | some t =>
      obtain ⟨compiler, hcompiler, hengine⟩ := h.isConsistent.compiled t htable
      -- The routes that the table was made of were not frozen yet, but it answers with its engine only.
      have hbuild : (Table.build r.routes r.basePath compiler).1 =
          .ok ⟨r.basePath, r.routes, t.engine⟩ := by
        simp only [Table.build, hengine, Except.map]
      rw [find_of_build (build_of_table htable),
        show t.find method path = Table.find ⟨r.basePath, r.routes, t.engine⟩ method path from rfl,
        Table.find_build hcompiler (h.isTemplate hbracket) hbuild, Table.firstAnswer_mapError,
        List.map_map]
      rfl

/-! ## Types -/

theorem IsConsistent.regex_of_type (h : r.IsConsistent) {t : Table} (hbuild : r.build.result = .ok t)
    {type regex : String} (htype : t.engine.types.find? type = some regex) :
    (∃ type, Engine.defaultTypes.find? type = some regex) ∨
      ∃ route ∈ r.routes, ∃ constraint ∈ route.constraints.entries, constraint.2 = regex := by
  obtain ⟨compiler, -, hengine⟩ := h.exists_engine hbuild
  refine Table.forall_types_addRoutes (P := fun regex =>
    (∃ type, Engine.defaultTypes.find? type = some regex) ∨
      ∃ route ∈ r.routes, ∃ constraint ∈ route.constraints.entries, constraint.2 = regex) ?_ ?_
    hengine type regex htype
  · exact fun type regex hdefault => .inl ⟨type, hdefault⟩
  · exact fun route hroute constraint hconstraint => .inr ⟨route, hroute, constraint, hconstraint, rfl⟩

theorem IsConsistent.isSound (h : r.IsConsistent) {t : Table} (hbuild : r.build.result = .ok t) :
    t.engine.IsSound := by
  obtain ⟨compiler, hcompiler, hengine⟩ := h.exists_engine hbuild
  obtain ⟨forms, -, hready⟩ := Table.addRoutes_ok (Engine.isReadyFor_new r.basePath hcompiler) hengine
  exact hready.sound

/-! ## URLs -/

theorem checkConstraints_empty (name : String) (params : List (String × Value)) :
    checkConstraints ∅ name params = .ok () := by
  induction params with
  | nil => rfl
  | cons entry rest ih => exact ih

theorem exists_lastNamed {name : String} {route : Route} (h : r.named? name = some route) :
    ∃ place, r.LastNamed place name route := by
  obtain ⟨hnamed, after, before, hroutes, hafter⟩ := List.find?_eq_some_iff_append.mp h
  have hsplit : r.routes = before.reverse ++ route :: after.reverse := by
    rw [← List.reverse_reverse r.routes, hroutes]
    simp
  refine ⟨before.length, ?_, by simpa using hnamed, fun later other hlater hother => ?_⟩
  · rw [hsplit, List.getElem?_append_right (by simp)]
    simp
  · rw [hsplit, List.getElem?_append_right (by simp; omega), List.length_reverse,
      List.getElem?_cons, if_neg (by omega)] at hother
    simpa using hafter other (List.mem_reverse.mp (List.mem_of_getElem? hother))

theorem IsConsistent.find?_named_of_none (h : r.IsConsistent) {t : Table}
    (hbuild : r.build.result = .ok t) {name : String} (hnamed : r.named? name = none) :
    t.engine.named.find? name = none := by
  obtain ⟨compiler, hcompiler, hengine⟩ := h.exists_engine hbuild
  obtain ⟨forms, hholds, -⟩ :=
    Table.addRoutes_ok (Engine.isReadyFor_new r.basePath hcompiler) hengine
  refine hholds.find?_named fun route hroute heq => ?_
  have := List.find?_eq_none.mp hnamed route (List.mem_reverse.mpr hroute)
  simp [heq] at this

theorem Reachable.url_eq (h : r.Reachable) (hbracket : ∀ route ∈ r.routes, '[' ∉ route.uri.toList)
    (hbuilds : r.Builds) (name : String) (params : Pairs Value) :
    (r.url name params).result = match r.named? name with
      | none => .error (.noNamedRoute name)
      | some route => (checkConstraints route.constraints name params.entries).bind fun _ =>
          route.written r.basePath name params := by
  obtain ⟨t, hbuild⟩ := hbuilds
  rw [url_of_build hbuild]
  cases hnamed : r.named? name with
  | none =>
      have hunknown := h.isConsistent.find?_named_of_none hbuild hnamed
      rw [Option.map_none, Option.getD_none, checkConstraints_empty]
      simp only [Except.bind, generate, Table.generate, Engine.generate, hunknown]
  | some route =>
      obtain ⟨place, hlast⟩ := exists_lastNamed hnamed
      obtain ⟨earlier, first, last, f, hserves⟩ := h.isConsistent.exists_serves hbuild hlast.stands
      have hslots := Engine.resolve?_of_extends hserves.stands.types
        (hserves.resolve?_canonical (h.isTemplate hbracket route (List.mem_of_getElem? hlast.stands)))
      have hwritten : generate t name params = route.written r.basePath name params := by
        simp only [generate, Table.generate, Engine.generate, hserves.named name hlast,
          Engine.fillPieces_of_resolve? hslots, hserves.basePath, Route.written]
        cases Slot.write name params route.canonicalSlots with
        | error error => cases error <;> rfl
        | ok text => rfl
      rw [Option.map_some, Option.getD_some, hwritten]

end Router

end HttpRouting
