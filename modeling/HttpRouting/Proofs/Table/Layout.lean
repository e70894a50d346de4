import HttpRouting.Proofs.Engine.Registration
import HttpRouting.Proofs.Template.Forms
import HttpRouting.Table

/-!
# The layout of a table

A table holds two entries for each route, in the order of the routes: the
canonical form, which carries the name, and behind it the bare form.  The tags
of a route are bound to its own constraints, however many routes there are.
-/

namespace HttpRouting

open Template.Compiler (Binds tagPieces tagNumbered anySegment)

/-! ## Fresh tags -/

namespace Engine

variable {α : Type}

/-- A sound engine in which none of the tags to come is bound. -/
structure IsReadyFor (e : Engine α) (compiler : Template.Compiler) : Prop where
  sound : e.IsSound
  writable : compiler.IsWritable
  untagged : e.types.find? "" = some anySegment
  fresh : ∀ n, compiler.next ≤ n → e.types.find? (tagNumbered compiler.stem n) = none

theorem find?_defaultTypes_tag (stem : String) (n : Nat) :
    defaultTypes.find? (tagNumbered stem n) = none := by
  refine Pairs.valueOf?_eq_none fun entry hentry heq => ?_
  have hdigits : (tagNumbered stem n).toList.getLast? = (Nat.toDigits 10 n).getLast? := by
    simp only [tagNumbered, String.toList_append, Nat.toString_eq_repr, Nat.toList_repr,
      List.getLast?_append]
    cases hlast : (Nat.toDigits 10 n).getLast? with
    | none => exact absurd (List.getLast?_eq_none_iff.mp hlast) Nat.toDigits_ne_nil
    | some d => rfl
  cases hlast : (Nat.toDigits 10 n).getLast? with
  | none => exact absurd (List.getLast?_eq_none_iff.mp hlast) Nat.toDigits_ne_nil
  | some d =>
      have hdigit : d.isDigit = true :=
        Nat.isDigit_of_mem_toDigits (by omega) (by omega) (List.mem_of_getLast? hlast)
      rw [hlast, ← heq] at hdigits
      simp only [defaultTypes, List.mem_cons, List.not_mem_nil, or_false] at hentry
      rcases hentry with rfl | rfl | rfl | rfl <;> simp at hdigits <;> subst hdigits <;>
        simp at hdigit

theorem isReadyFor_new (basePath : String) {compiler : Template.Compiler}
    (h : compiler.IsWritable) : IsReadyFor ({ basePath := basePath } : Engine α) compiler where
  sound := isSound_new basePath
  writable := h
  untagged := rfl
  fresh := fun n _ => find?_defaultTypes_tag compiler.stem n

section

variable {e : Engine α} {compiler : Template.Compiler} (h : e.IsReadyFor compiler)
  (uri : String) (constraints : Pairs String)

include h

theorem IsReadyFor.find?_binding_eq_none {entry : String × String}
    (hentry : entry ∈ (compiler.compile uri constraints).1.types.entries) :
    e.types.find? entry.1 = none := by
  rw [Template.Compiler.entries_types_compile] at hentry
  obtain ⟨n, hn, -, heq⟩ := Template.Compiler.mem_binding_tagPieces hentry
  rw [heq]
  exact h.fresh n hn

theorem IsReadyFor.extends_addTypes :
    e.types.Extends (e.addTypes (compiler.compile uri constraints).1.types).types :=
  Pairs.extends_merge fun _ => h.find?_binding_eq_none uri constraints

theorem IsReadyFor.binds :
    Binds (e.addTypes (compiler.compile uri constraints).1.types).types
      (tagPieces constraints (Template.scan uri.toList) compiler).1 where
  untagged := h.extends_addTypes uri constraints _ _ h.untagged
  tagged := by
    intro entry hentry
    refine Pairs.find?_merge_of_mem ?_ ?_
    · rw [Pairs.keys, Template.Compiler.entries_types_compile]
      exact Template.Compiler.nodup_binding_tagPieces _ _ _
    · rw [Template.Compiler.entries_types_compile]
      exact hentry

theorem IsReadyFor.addTypes :
    (e.addTypes (compiler.compile uri constraints).1.types).IsReadyFor
      (compiler.compile uri constraints).2 where
  sound := h.sound.addTypes fun _ => h.find?_binding_eq_none uri constraints
  writable := by
    have hstem := Template.Compiler.tagPieces_stem constraints (Template.scan uri.toList) compiler
    rw [Template.Compiler.IsWritable,
      show (compiler.compile uri constraints).2.stem = compiler.stem from hstem]
    exact h.writable
  untagged := h.extends_addTypes uri constraints _ _ h.untagged
  fresh := by
    intro n hn
    have hstem := Template.Compiler.tagPieces_stem constraints (Template.scan uri.toList) compiler
    have hnext := Template.Compiler.tagPieces_next_le constraints (Template.scan uri.toList) compiler
    simp only [Template.Compiler.compile] at hn
    rw [show (compiler.compile uri constraints).2.stem = compiler.stem from hstem,
      Engine.addTypes, Pairs.merge, Pairs.find?_insertAll, h.fresh n (Nat.le_trans hnext hn),
      Option.or_none]
    refine Pairs.valueOf?_eq_none fun entry hentry heq => ?_
    rw [List.mem_reverse, Template.Compiler.entries_types_compile] at hentry
    obtain ⟨m, -, hm, hname⟩ := Template.Compiler.mem_binding_tagPieces hentry
    have := Template.Compiler.tagNumbered_injective (hname.symm.trans heq)
    omega

end

theorem IsReadyFor.registers {e next : Engine α} {entry : Entry α}
    {compiler : Template.Compiler} (h : e.IsReadyFor compiler) (hnext : e.Registers next entry) :
    next.IsReadyFor compiler where
  sound := hnext.sound
  writable := h.writable
  untagged := by
    rw [hnext.types]
    exact h.untagged
  fresh := by
    rw [hnext.types]
    exact h.fresh

end Engine

/-! ## The forms of a route -/

namespace Table

structure Forms where
  canonical : Engine.Entry Nat
  bare : Engine.Entry Nat

namespace Forms

def entries (f : Forms) : List (Engine.Entry Nat) := [f.canonical, f.bare]

structure IsOf (f : Forms) (types : Pairs String) (place : Nat) (route : Route)
    (compiler : Template.Compiler) : Prop where
  writable : compiler.IsWritable
  binds : Binds types (tagPieces route.constraints (Template.scan route.uri.toList) compiler).1
  canonical : ∃ compiled, f.canonical = Engine.newEntry route.methods
    (compiler.compile route.uri route.constraints).1.canonical compiled place route.name
  bare : ∃ compiled, f.bare = Engine.newEntry route.methods
    (compiler.compile route.uri route.constraints).1.bare compiled place none

theorem IsOf.mono {f : Forms} {types more : Pairs String} {place : Nat} {route : Route}
    {compiler : Template.Compiler} (h : f.IsOf types place route compiler)
    (hext : types.Extends more) : f.IsOf more place route compiler where
  writable := h.writable
  binds := ⟨hext _ _ h.binds.untagged, fun entry hentry => hext _ _ (h.binds.tagged entry hentry)⟩
  canonical := h.canonical
  bare := h.bare

theorem IsOf.target {f : Forms} {types : Pairs String} {place : Nat} {route : Route}
    {compiler : Template.Compiler} (h : f.IsOf types place route compiler)
    {entry : Engine.Entry Nat} (hentry : entry ∈ f.entries) : entry.target = place := by
  obtain ⟨canonical, hcanonical⟩ := h.canonical
  obtain ⟨bare, hbare⟩ := h.bare
  simp only [entries, List.mem_cons, List.not_mem_nil, or_false] at hentry
  rcases hentry with rfl | rfl
  · rw [hcanonical]
    rfl
  · rw [hbare]
    rfl

end Forms

/-- The names of an engine in which some forms have been registered after others. -/
def nameForms (named : Pairs (Engine.Entry Nat)) (forms : List Forms) : Pairs (Engine.Entry Nat) :=
  forms.foldl (fun named f => Engine.rename named f.canonical) named

/-- An engine in which the forms of some routes, the first at a place, have been registered. -/
structure Holds (place : Nat) (routes : List Route) (e next : Engine Nat) (forms : List Forms) :
    Prop where
  basePath : next.basePath = e.basePath
  types : e.types.Extends next.types
  entries : next.entries = e.entries ++ forms.flatMap Forms.entries
  named : next.named = nameForms e.named forms
  length : forms.length = routes.length
  form : ∀ (i : Nat) (f : Forms), forms[i]? = some f →
    ∃ route compiler, routes[i]? = some route ∧ f.IsOf next.types (place + i) route compiler

theorem holds_nil (place : Nat) (e : Engine Nat) : Holds place [] e e [] where
  basePath := rfl
  types := .refl _
  entries := by simp
  named := rfl
  length := rfl
  form := by simp

theorem addForms_ok {e next : Engine Nat} {compiler : Template.Compiler}
    (hready : e.IsReadyFor compiler) {place : Nat} {route : Route}
    (h : addForms e place route (compiler.compile route.uri route.constraints).1 = .ok next) :
    ∃ f, Holds place [route] e next [f] ∧
      next.IsReadyFor (compiler.compile route.uri route.constraints).2 := by
  have hadded := hready.addTypes route.uri route.constraints
  unfold addForms at h
  cases hmap : (e.addTypes (compiler.compile route.uri route.constraints).1.types).map
      route.methods (compiler.compile route.uri route.constraints).1.canonical place
      route.name with
  | error error => simp [hmap, bind, Except.bind] at h
  | ok middle =>
      simp only [hmap, bind, Except.bind] at h
      obtain ⟨canonical, -, hmiddle⟩ := hadded.sound.exists_of_map hmap
      obtain ⟨bare, -, hnext⟩ := hmiddle.sound.exists_of_map h
      have htypes : next.types =
          (e.addTypes (compiler.compile route.uri route.constraints).1.types).types :=
        hnext.types.trans hmiddle.types
      refine ⟨⟨Engine.newEntry route.methods
          (compiler.compile route.uri route.constraints).1.canonical canonical place route.name,
        Engine.newEntry route.methods
          (compiler.compile route.uri route.constraints).1.bare bare place none⟩,
        ⟨hnext.basePath.trans hmiddle.basePath, ?_, ?_, ?_, rfl, ?_⟩,
        (hadded.registers hmiddle).registers hnext⟩
      · rw [htypes]
        exact hready.extends_addTypes route.uri route.constraints
      · rw [hnext.entries, hmiddle.entries]
        simp [Forms.entries, Engine.addTypes]
      · rw [hnext.named, hmiddle.named]
        rfl
      · intro i f hf
        cases i with
        | zero =>
            simp only [List.getElem?_cons_zero, Option.some.injEq] at hf
            subst hf
            refine ⟨route, compiler, rfl, hready.writable, ?_, ⟨canonical, rfl⟩, ⟨bare, rfl⟩⟩
            rw [htypes]
            exact hready.binds route.uri route.constraints
        | succ i => simp at hf

theorem addRoutes_ok {place : Nat} {routes : List Route} {e next : Engine Nat}
    {compiler : Template.Compiler} (hready : e.IsReadyFor compiler)
    (h : (addRoutes place routes e compiler).1 = .ok next) :
    ∃ forms, Holds place routes e next forms ∧
      next.IsReadyFor (addRoutes place routes e compiler).2 := by
  induction routes generalizing place e compiler with
  | nil =>
      simp only [addRoutes, Except.ok.injEq] at h
      subst h
      exact ⟨[], holds_nil place e, hready⟩
  | cons route rest ih =>
      simp only [addRoutes] at h ⊢
      cases hforms : addForms e place route (compiler.compile route.uri route.constraints).1 with
      | error error => simp [hforms] at h
      | ok middle =>
          simp only [hforms] at h ⊢
          obtain ⟨f, hfirst, hmiddle⟩ := addForms_ok hready hforms
          obtain ⟨forms, hrest, hlast⟩ := ih hmiddle h
          refine ⟨f :: forms, ⟨hrest.basePath.trans hfirst.basePath,
            hfirst.types.trans hrest.types, ?_, ?_, by simp [hrest.length], ?_⟩, hlast⟩
          · rw [hrest.entries, hfirst.entries]
            simp
          · rw [hrest.named, hfirst.named]
            rfl
          · intro i g hg
            cases i with
            | zero =>
                simp only [List.getElem?_cons_zero, Option.some.injEq] at hg
                subst hg
                obtain ⟨found, compiler', hfound, hof⟩ := hfirst.form 0 f rfl
                simp only [List.getElem?_cons_zero, Option.some.injEq] at hfound
                subst hfound
                exact ⟨route, compiler', rfl, hof.mono hrest.types⟩
            | succ i =>
                obtain ⟨found, compiler', hfound, hof⟩ := hrest.form i g hg
                refine ⟨found, compiler', hfound, ?_⟩
                rwa [show place + (i + 1) = place + 1 + i by omega]

theorem exists_engine_of_build {routes : List Route} {basePath : String}
    {compiler : Template.Compiler} {t : Table} (h : (build routes basePath compiler).1 = .ok t) :
    ∃ next, (addRoutes 0 routes { basePath := basePath } compiler).1 = .ok next ∧
      t = ⟨basePath, routes, next⟩ := by
  simp only [build] at h
  cases hresult : (addRoutes 0 routes { basePath := basePath } compiler).1 with
  | error error => simp [hresult, Except.map] at h
  | ok next => exact ⟨next, rfl, by simpa [hresult, Except.map] using h.symm⟩

end Table

end HttpRouting
