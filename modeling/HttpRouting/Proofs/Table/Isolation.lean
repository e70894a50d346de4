import HttpRouting.Proofs.Table.Layout

/-!
# Isolated routes

What a route contributes to a table can be read off the route alone: whether
its two forms compile, and what is found through them.  A table compiles when
all of its routes do, and finds what the first of them finds that finds
anything, so no route has an effect on another.
-/

namespace HttpRouting

open Engine (Slot Entry CompiledPattern firstHit remainder?)
open Template (absorbMarks canonicalPieces)

def TableError.unnamed : TableError → TableError
  | .invalidRoute uri cause => .invalidRoute uri cause.unnamed
  | .engine error => .engine error

theorem TableError.unnamed_blame (uri : String) (error : EngineError) :
    (Table.blame uri error).unnamed = Table.blame uri error.unnamed := by
  cases error <;> rfl

/-! ## Single routes -/

namespace Route

/-- A route as registering makes it, whose template has no block of its own. -/
structure IsTemplate (route : Route) : Prop where
  trimmed : Path.IsTrimmed route.uri.toList
  bracket : '[' ∉ route.uri.toList

def slots (route : Route) : List Slot :=
  Template.slots route.constraints (absorbMarks (Template.scan route.uri.toList))

def canonicalSlots (route : Route) : List Slot :=
  Template.slots route.constraints (absorbMarks (canonicalPieces route.uri.toList))

def compileForms (route : Route) : Except EngineError (CompiledPattern × CompiledPattern) := do
  let canonical ← Slot.compile "" route.canonicalSlots
  let bare ← Slot.compile "" route.slots
  return (canonical, bare)

def check (route : Route) : Except TableError Unit :=
  (route.compileForms.map fun _ => ()).mapError (Table.blame route.uri)

def checkNamed (route : Route) (compiler : Template.Compiler) : Except TableError Unit :=
  let compiled := (compiler.compile route.uri route.constraints).1
  let forms := do
    let canonical ← Slot.compile compiled.canonical route.canonicalSlots
    let bare ← Slot.compile compiled.bare route.slots
    return (canonical, bare)
  (forms.map fun _ => ()).mapError (Table.blame route.uri)

theorem mapError_checkNamed (route : Route) (compiler : Template.Compiler) :
    (route.checkNamed compiler).mapError TableError.unnamed = route.check := by
  rw [checkNamed, check, compileForms,
    ← Slot.mapError_compile (compiler.compile route.uri route.constraints).1.canonical,
    ← Slot.mapError_compile (compiler.compile route.uri route.constraints).1.bare]
  cases Slot.compile (compiler.compile route.uri route.constraints).1.canonical
      route.canonicalSlots with
  | error error => exact congrArg Except.error (TableError.unnamed_blame route.uri error)
  | ok canonical =>
      cases Slot.compile (compiler.compile route.uri route.constraints).1.bare route.slots with
      | error error => exact congrArg Except.error (TableError.unnamed_blame route.uri error)
      | ok bare => rfl

def entries (route : Route) : List (Entry Unit) :=
  match route.compileForms with
  | .ok (canonical, bare) =>
    [⟨route.methods.map Text.upper, "", canonical, (), none⟩,
      ⟨route.methods.map Text.upper, "", bare, (), none⟩]
  | .error _ => []

def found (route : Route) (basePath method path : String) : Except EngineError (Option Found) :=
  match remainder? basePath.toList path.toList with
  | none => .ok none
  | some rest =>
    (firstHit (Text.upper method) rest route.entries).map (Option.map fun hit => ⟨0, ⟨hit.params⟩⟩)

end Route

namespace Table

/-! ## Compiling -/

theorem addForms_checkNamed {e : Engine Nat} {compiler : Template.Compiler}
    (hready : e.IsReadyFor compiler) (place : Nat) {route : Route} (hroute : route.IsTemplate) :
    ((addForms e place route (compiler.compile route.uri route.constraints).1).mapError
        (blame route.uri)).map (fun _ => ()) = route.checkNamed compiler := by
  have hadded := (hready.addTypes route.uri route.constraints).sound
  have hbinds := hready.binds route.uri route.constraints
  have hcanonical : Engine.compileAfresh (e.addTypes
      (compiler.compile route.uri route.constraints).1.types).types
        (compiler.compile route.uri route.constraints).1.canonical =
      Slot.compile (compiler.compile route.uri route.constraints).1.canonical
        route.canonicalSlots :=
    Engine.compileAfresh_of_resolve? (Template.resolve?_canonical hroute.trimmed hroute.bracket
      hready.writable hbinds)
  have hbare : Engine.compileAfresh (e.addTypes
      (compiler.compile route.uri route.constraints).1.types).types
        (compiler.compile route.uri route.constraints).1.bare =
      Slot.compile (compiler.compile route.uri route.constraints).1.bare route.slots :=
    Engine.compileAfresh_of_resolve? (Template.resolve?_bare hroute.trimmed hroute.bracket
      hready.writable hbinds)
  rw [addForms, Route.checkNamed]
  cases hfirst : Slot.compile (compiler.compile route.uri route.constraints).1.canonical
      route.canonicalSlots with
  | error error =>
      rw [hadded.map_of_error (hcanonical.trans hfirst)]
      rfl
  | ok canonical =>
      obtain ⟨middle, hmiddle, hregisters⟩ :=
        hadded.map_of_ok (hcanonical.trans hfirst) route.methods place route.name
      rw [hmiddle]
      rw [← hregisters.types] at hbare
      simp only [bind, Except.bind]
      cases hsecond : Slot.compile (compiler.compile route.uri route.constraints).1.bare
          route.slots with
      | error error =>
          rw [hregisters.sound.map_of_error (hbare.trans hsecond)]
          rfl
      | ok bare =>
          obtain ⟨last, hlast, -⟩ :=
            hregisters.sound.map_of_ok (hbare.trans hsecond) route.methods place none
          rw [hlast]
          rfl

theorem addForms_check {e : Engine Nat} {compiler : Template.Compiler}
    (hready : e.IsReadyFor compiler) (place : Nat) {route : Route} (hroute : route.IsTemplate) :
    ((addForms e place route (compiler.compile route.uri route.constraints).1).mapError
        fun error => (blame route.uri error).unnamed).map (fun _ => ()) = route.check := by
  rw [← route.mapError_checkNamed compiler, ← addForms_checkNamed hready place hroute]
  cases addForms e place route (compiler.compile route.uri route.constraints).1 <;> rfl

theorem addRoutes_check {place : Nat} {routes : List Route} {e : Engine Nat}
    {compiler : Template.Compiler} (hready : e.IsReadyFor compiler)
    (hroutes : ∀ route ∈ routes, route.IsTemplate) :
    ((addRoutes place routes e compiler).1.mapError TableError.unnamed).map (fun _ => ()) =
      forM routes Route.check := by
  induction routes generalizing place e compiler with
  | nil => rfl
  | cons route rest ih =>
      have hcheck := addForms_check hready place (hroutes route (by simp))
      rw [List.forM_cons, ← hcheck, addRoutes]
      cases hforms : addForms e place route (compiler.compile route.uri route.constraints).1 with
      | error error => simp [hforms, Except.map, Except.mapError, bind, Except.bind]
      | ok middle =>
          obtain ⟨f, -, hmiddle⟩ := addForms_ok hready hforms
          simp only [hforms]
          exact ih hmiddle fun other hother => hroutes other (by simp [hother])

theorem build_check {routes : List Route} (basePath : String) {compiler : Template.Compiler}
    (hcompiler : compiler.IsWritable) (hroutes : ∀ route ∈ routes, route.IsTemplate) :
    ((build routes basePath compiler).1.mapError TableError.unnamed).map (fun _ => ()) =
      forM routes Route.check := by
  have hcheck := @addRoutes_check 0 routes _ compiler (Engine.isReadyFor_new basePath hcompiler)
    hroutes
  rw [← hcheck, build]
  obtain ⟨result, last⟩ := addRoutes 0 routes { basePath := basePath } compiler
  cases result <;> rfl

theorem forM_check_eq_ok {routes : List Route} :
    forM routes Route.check = .ok () ↔ ∀ route ∈ routes, route.check = .ok () := by
  induction routes with
  | nil => simp [pure, Except.pure]
  | cons route rest ih =>
      rw [List.forM_cons, List.forall_mem_cons, ← ih]
      cases route.check <;> simp [bind, Except.bind]

theorem forM_check_eq_error {before after : List Route} {route : Route} {error : TableError}
    (hbefore : ∀ earlier ∈ before, earlier.check = .ok ()) (h : route.check = .error error) :
    forM (before ++ route :: after) Route.check = .error error := by
  induction before with
  | nil =>
      rw [List.nil_append, List.forM_cons, h]
      rfl
  | cons earlier before ih =>
      rw [List.cons_append, List.forM_cons, hbefore earlier (by simp)]
      exact ih fun other hother => hbefore other (by simp [hother])

theorem check_error {route : Route} {error : TableError} (h : route.check = .error error) :
    (∃ cause, error = .invalidRoute route.uri cause) ∨
      ∃ e, error = .engine (.regex e) ∧ ∀ cause position, e ≠ .invalid cause position := by
  have hblame {e : EngineError} {pattern : String} {slots : List Slot}
      (hcompile : Slot.compile pattern slots = .error e) (heq : blame route.uri e = error) :
      (∃ cause, error = .invalidRoute route.uri cause) ∨
        ∃ e, error = .engine (.regex e) ∧ ∀ cause position, e ≠ .invalid cause position := by
    rcases Engine.Slot.compile_error hcompile with ⟨cause, rfl⟩ | ⟨cause, rfl, hcause⟩
    · exact .inl ⟨_, heq.symm⟩
    · exact .inr ⟨cause, heq.symm, hcause⟩
  unfold Route.check Route.compileForms at h
  cases hcanonical : Slot.compile "" route.canonicalSlots with
  | error e =>
      simp only [hcanonical, bind, Except.bind, Except.map, Except.mapError,
        Except.error.injEq] at h
      exact hblame hcanonical h
  | ok canonical =>
      cases hbare : Slot.compile "" route.slots with
      | error e =>
          simp only [hcanonical, hbare, bind, Except.bind, Except.map, Except.mapError,
            Except.error.injEq] at h
          exact hblame hbare h
      | ok bare =>
          simp [hcanonical, hbare, bind, Except.bind, Except.map, Except.mapError, pure,
            Except.pure] at h

/-! ## Finding -/

/-- The first answer that finds something or fails, where what is found is at the place of the answer. -/
def firstAnswer {ε : Type} : Nat → List (Except ε (Option Found)) → Except ε (Option Found)
  | _, [] => .ok none
  | place, .ok none :: rest => firstAnswer (place + 1) rest
  | place, answer :: _ => answer.map (Option.map fun found => { found with route := place })

theorem firstAnswer_none {ε : Type} (place : Nat) {answers : List (Except ε (Option Found))}
    (h : ∀ answer ∈ answers, answer = .ok none) : firstAnswer place answers = .ok none := by
  induction answers generalizing place with
  | nil => rfl
  | cons answer rest ih =>
      rw [h answer (by simp), firstAnswer]
      exact ih _ fun other hother => h other (by simp [hother])

theorem exists_firstAnswer {ε : Type} (place : Nat) {answers : List (Except ε (Option Found))}
    (h : ∀ answer ∈ answers, ∃ found, answer = .ok found) :
    ∃ found, firstAnswer place answers = .ok found := by
  induction answers generalizing place with
  | nil => exact ⟨none, rfl⟩
  | cons answer rest ih =>
      obtain ⟨found, rfl⟩ := h answer (by simp)
      cases found with
      | none => exact ih (place + 1) fun other hother => h other (by simp [hother])
      | some found => exact ⟨_, rfl⟩

theorem firstAnswer_mapError {ε δ : Type} (f : ε → δ) (place : Nat)
    (answers : List (Except ε (Option Found))) :
    (firstAnswer place answers).mapError f =
      firstAnswer place (answers.map (Except.mapError f)) := by
  induction answers generalizing place with
  | nil => rfl
  | cons answer rest ih =>
      cases answer with
      | error error => rfl
      | ok found =>
          cases found with
          | none => exact ih (place + 1)
          | some found => rfl

theorem Forms.IsOf.map_form {f : Forms} {types : Pairs String} {place : Nat} {route : Route}
    {compiler : Template.Compiler} (h : f.IsOf types place route compiler)
    (hroute : route.IsTemplate)
    (hcompiled : ∀ entry ∈ f.entries, Engine.compileAfresh types entry.pattern = .ok entry.compiled) :
    f.entries.map Entry.form = route.entries := by
  obtain ⟨canonical, hcanonical⟩ := h.canonical
  obtain ⟨bare, hbare⟩ := h.bare
  have hfirst := hcompiled f.canonical (by simp [Forms.entries])
  have hsecond := hcompiled f.bare (by simp [Forms.entries])
  rw [hcanonical] at hfirst
  rw [hbare] at hsecond
  simp only [Engine.newEntry] at hfirst hsecond
  rw [Engine.compileAfresh_of_resolve? (Template.resolve?_canonical hroute.trimmed hroute.bracket
    h.writable h.binds)] at hfirst
  rw [Engine.compileAfresh_of_resolve? (Template.resolve?_bare hroute.trimmed hroute.bracket
    h.writable h.binds)] at hsecond
  have hforms : route.compileForms = .ok (canonical, bare) := by
    rw [Route.compileForms, Route.canonicalSlots, Route.slots,
      Engine.Slot.compile_of_ok "" hfirst, Engine.Slot.compile_of_ok "" hsecond]
    rfl
  simp only [Route.entries, hforms, Forms.entries, List.map_cons, List.map_nil, hcanonical, hbare,
    Engine.newEntry, Entry.form]

theorem firstHit_at_place {entries : List (Entry Nat)} {place : Nat}
    (h : ∀ entry ∈ entries, entry.target = place) (method : String) (rest : List Char) :
    (firstHit method rest entries).map (Option.map fun hit => (⟨hit.target, ⟨hit.params⟩⟩ : Found)) =
      (firstHit method rest (entries.map Entry.form)).map
        (Option.map fun hit => ⟨place, ⟨hit.params⟩⟩) := by
  rw [Engine.firstHit_map_form]
  cases hfirst : firstHit method rest entries with
  | error error => rfl
  | ok hit =>
      cases hit with
      | none => rfl
      | some hit =>
          obtain ⟨entry, hentry, cursor, -, hhit⟩ := Engine.exists_entry_of_firstHit hfirst
          have htarget : hit.target = place := (Engine.target_of_hit hhit).trans (h entry hentry)
          simp only [Except.map, Option.map_some, htarget]

theorem firstHit_forms {place : Nat} {routes : List Route} {forms : List Forms}
    (hlength : forms.length = routes.length)
    (h : ∀ (i : Nat) (f : Forms) (route : Route), forms[i]? = some f → routes[i]? = some route →
      f.entries.map Entry.form = route.entries ∧ ∀ entry ∈ f.entries, entry.target = place + i)
    (method : String) (rest : List Char) :
    (firstHit method rest (forms.flatMap Forms.entries)).map
        (Option.map fun hit => (⟨hit.target, ⟨hit.params⟩⟩ : Found)) =
      firstAnswer place (routes.map fun route =>
        (firstHit method rest route.entries).map (Option.map fun hit => ⟨0, ⟨hit.params⟩⟩)) := by
  induction forms generalizing place routes with
  | nil =>
      have hroutes : routes = [] := List.length_eq_zero_iff.mp hlength.symm
      subst hroutes
      rfl
  | cons f forms ih =>
      cases routes with
      | nil => simp at hlength
      | cons route routes =>
          obtain ⟨hform, htarget⟩ := h 0 f route rfl rfl
          have hrest := @ih (place + 1) routes (by simpa using hlength) fun i g other hg hother => by
            obtain ⟨hgform, hgtarget⟩ := h (i + 1) g other hg hother
            exact ⟨hgform, fun entry hentry => by rw [hgtarget entry hentry]; omega⟩
          have hfirst := firstHit_at_place htarget method rest
          rw [hform] at hfirst
          rw [List.flatMap_cons, Engine.firstHit_append, List.map_cons]
          cases hanswer : firstHit method rest f.entries with
          | error error =>
              cases hown : firstHit method rest route.entries with
              | error other =>
                  simp only [hanswer, hown, Except.map, Except.error.injEq] at hfirst
                  simp only [hfirst, Except.map, firstAnswer]
              | ok other => simp [hanswer, hown, Except.map] at hfirst
          | ok hit =>
              cases hown : firstHit method rest route.entries with
              | error other => simp [hanswer, hown, Except.map] at hfirst
              | ok own =>
                  simp only [hanswer, hown, Except.map, Except.ok.injEq] at hfirst
                  cases hit with
                  | none =>
                      obtain rfl : own = none := by cases own <;> simp_all
                      exact hrest
                  | some hit =>
                      obtain ⟨own, rfl⟩ : ∃ o, own = some o := by cases own <;> simp_all
                      simp only [Option.map_some, Except.map, firstAnswer, hfirst]
                      simp

/-- A table finds what the first of its routes finds that finds anything on its own. -/
theorem find_build {routes : List Route} {basePath : String} {compiler : Template.Compiler}
    (hcompiler : compiler.IsWritable) (hroutes : ∀ route ∈ routes, route.IsTemplate) {t : Table}
    (h : (build routes basePath compiler).1 = .ok t) (method path : String) :
    t.find method path =
      firstAnswer 0 (routes.map fun route => route.found basePath method path) := by
  obtain ⟨next, hnext, rfl⟩ := exists_engine_of_build h
  obtain ⟨forms, hholds, hready⟩ :=
    addRoutes_ok (Engine.isReadyFor_new basePath hcompiler) hnext
  have hentries : next.entries = forms.flatMap Forms.entries := by simpa using hholds.entries
  have hbase : next.basePath = basePath := hholds.basePath
  simp only [find, Engine.lookup, hbase, hentries]
  cases hrest : remainder? basePath.toList path.toList with
  | none =>
      refine (firstAnswer_none 0 fun answer hanswer => ?_).symm
      obtain ⟨route, -, rfl⟩ := List.mem_map.mp hanswer
      simp only [Route.found, hrest]
  | some rest =>
      simp only [Route.found, hrest]
      refine firstHit_forms hholds.length (fun i f route hf hroute => ?_) (Text.upper method) rest
      obtain ⟨other, compiler', hother, hof⟩ := hholds.form i f hf
      obtain rfl : other = route := Option.some.inj (hother.symm.trans hroute)
      have hmem : ∀ entry ∈ f.entries, entry ∈ next.entries := fun entry hentry => by
        rw [hentries]
        exact List.mem_flatMap.mpr ⟨f, List.mem_of_getElem? hf, hentry⟩
      exact ⟨hof.map_form (hroutes _ (List.mem_of_getElem? hother))
        fun entry hentry => hready.sound.registered entry (hmem entry hentry),
        fun entry hentry => hof.target hentry⟩

end Table

end HttpRouting
