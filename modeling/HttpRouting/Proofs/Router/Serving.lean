import HttpRouting.Proofs.Router.Reachability

/-!
# Using a compiled router

A reachable router that builds serves requests and writes URLs with the engine
in which its routes have been registered.  The canonical form of the last route
with a name is the one whose URL is written.
-/

namespace HttpRouting

open Engine (ArePlain Entry remainder?)
open Table (addRoutes Stands)

/-! ## Paths below the base path -/

theorem Engine.remainder?_append (basePath rest : List Char) :
    remainder? basePath (basePath ++ rest) = some rest := by
  have hprefix : basePath.isPrefixOf? (basePath ++ rest) = some rest := by
    induction basePath with
    | nil => cases rest <;> rfl
    | cons c s ih => simp [List.isPrefixOf?, ih]
  rw [remainder?, hprefix]

namespace Router

/-! ## Named routes -/

/-- The route at a place is the last one of its name. -/
structure LastNamed (r : Router) (place : Nat) (name : String) (route : Route) : Prop where
  stands : r.routes[place]? = some route
  named : route.name = some name
  last : ∀ later other, place < later → r.routes[later]? = some other → other.name ≠ some name

theorem exists_split {r : Router} {place : Nat} {route : Route}
    (h : r.routes[place]? = some route) :
    ∃ before after, r.routes = before ++ route :: after ∧ before.length = place ∧
      before ++ [route] = r.routes.take (place + 1) := by
  obtain ⟨hplace, hget⟩ := List.getElem?_eq_some_iff.mp h
  refine ⟨r.routes.take place, r.routes.drop (place + 1), ?_, ?_, ?_⟩
  · rw [← hget, List.getElem_cons_drop, List.take_append_drop]
  · rw [List.length_take]
    omega
  · rw [← hget, List.take_append_getElem]

theorem LastNamed.of_mem_after {r : Router} {place : Nat} {name : String} {route : Route}
    (h : r.LastNamed place name route) {before after : List Route}
    (hroutes : r.routes = before ++ route :: after) (hplace : before.length = place) :
    ∀ later ∈ after, later.name ≠ some name := by
  intro later hlater
  obtain ⟨i, hi⟩ := List.getElem?_of_mem hlater
  refine h.last (place + 1 + i) later (by omega) ?_
  rw [hroutes, List.append_cons, List.getElem?_append_right (by simp; omega)]
  simpa [← hplace] using hi

theorem LastNamed.named?_eq {r : Router} {place : Nat} {name : String} {route : Route}
    (h : r.LastNamed place name route) : r.named? name = some route := by
  obtain ⟨before, after, hroutes, hplace, -⟩ := exists_split h.stands
  have hafter : after.reverse.find? (fun other => other.name == some name) = none := by
    refine List.find?_eq_none.mpr fun later hlater => ?_
    simpa using h.of_mem_after hroutes hplace later (List.mem_reverse.mp hlater)
  rw [named?, hroutes]
  simp [List.find?_append, hafter, h.named]

theorem LastNamed.of_routes_eq {r : Router} {name : String} {route : Route}
    (hroutes : r.routes = [route]) (hname : route.name = some name) : r.LastNamed 0 name route where
  stands := by rw [hroutes]; rfl
  named := hname
  last := by
    intro later other hlater hother
    rw [hroutes, List.getElem?_eq_none (by simp; omega)] at hother
    simp at hother

theorem lastNamed_single (uri name param regex : String) :
    (single uri name param regex).LastNamed 0 name (singleRoute uri name param regex) :=
  .of_routes_eq (routes_single ..) rfl

theorem constraints_named?_build (r : Router) (name : String) :
    (r.build.router.named? name).map Route.constraints = (r.named? name).map Route.constraints := by
  have hroutes : r.build.router.routes = r.routes ∨
      r.build.router.routes = r.routes.map Route.freeze := by
    unfold build
    split
    next => exact .inl rfl
    next =>
      split
      next => exact .inl rfl
      next => exact .inr rfl
  rw [named?, named?]
  rcases hroutes with hsame | hfrozen
  · rw [hsame]
  · rw [hfrozen, ← List.map_reverse, List.find?_map, Option.map_map]
    rfl

theorem url_of_build {r : Router} {t : Table} (h : r.build.result = .ok t) (name : String)
    (params : Pairs Value) :
    (r.url name params).result =
      (checkConstraints (((r.named? name).map Route.constraints).getD ∅) name params.entries).bind
        fun _ => generate t name params := by
  rw [url, Reply.andThen, h]
  dsimp only
  rw [constraints_named?_build]
  rfl

/-! ## The engine behind a router -/

theorem IsConsistent.exists_engine {r : Router} (h : r.IsConsistent) {t : Table}
    (hbuild : r.build.result = .ok t) :
    ∃ compiler : Template.Compiler, compiler.IsWritable ∧
      (addRoutes 0 r.routes { basePath := r.basePath } compiler).1 = .ok t.engine := by
  cases htable : r.table with
  | some other =>
      rw [Router.build, htable, Except.ok.injEq] at hbuild
      subst hbuild
      exact h.compiled other htable
  | none =>
      rw [build_result htable] at hbuild
      cases hresult : (Table.build r.routes r.basePath r.compiler).1 with
      | error error => simp [hresult, Except.mapError] at hbuild
      | ok built =>
          obtain rfl : built = t := by simpa [hresult, Except.mapError] using hbuild
          obtain ⟨next, hnext, rfl⟩ := Table.exists_engine_of_build hresult
          exact ⟨r.compiler, h.writable, hnext⟩

theorem IsConsistent.basePath_engine {r : Router} (h : r.IsConsistent) {t : Table}
    (hbuild : r.build.result = .ok t) : t.engine.basePath = r.basePath := by
  obtain ⟨compiler, hcompiler, hengine⟩ := h.exists_engine hbuild
  obtain ⟨forms, hholds, -⟩ :=
    Table.addRoutes_ok (Engine.isReadyFor_new r.basePath hcompiler) hengine
  exact hholds.basePath

theorem IsConsistent.exists_route {r : Router} (h : r.IsConsistent) {t : Table}
    (hbuild : r.build.result = .ok t) {entry : Entry Nat} (hentry : entry ∈ t.engine.entries) :
    ∃ route, r.routes[entry.target]? = some route := by
  obtain ⟨compiler, hcompiler, hengine⟩ := h.exists_engine hbuild
  obtain ⟨forms, hholds, -⟩ :=
    Table.addRoutes_ok (Engine.isReadyFor_new r.basePath hcompiler) hengine
  have hentries : t.engine.entries = forms.flatMap Table.Forms.entries := by
    simpa using hholds.entries
  have htarget := (hholds.target (hentries ▸ hentry)).2
  exact ⟨_, List.getElem?_eq_getElem (by omega)⟩

/-- The table of a router has a place for each route, and writes URLs with the last one of a name. -/
structure Serves (r : Router) (t : Table) (place : Nat) (route : Route) (earlier : Engine Nat)
    (first last : List (Entry Nat)) (f : Table.Forms) : Prop where
  basePath : t.engine.basePath = r.basePath
  stands : Stands t.engine place route earlier first last f
  plain : (∀ other ∈ r.routes.take (place + 1), other.HasPlainConstraints) → ArePlain earlier.types
  named : ∀ name, r.LastNamed place name route → t.engine.named.find? name = some f.canonical

theorem IsConsistent.exists_serves {r : Router} (h : r.IsConsistent) {t : Table}
    (hbuild : r.build.result = .ok t) {place : Nat} {route : Route}
    (hroute : r.routes[place]? = some route) :
    ∃ earlier first last f, r.Serves t place route earlier first last f := by
  obtain ⟨compiler, hcompiler, hengine⟩ := h.exists_engine hbuild
  obtain ⟨before, after, hroutes, hplace, htake⟩ := exists_split hroute
  have hbase := h.basePath_engine hbuild
  rw [hroutes] at hengine
  obtain ⟨earlier, first, last, f, hstands, hearlier, hnamed⟩ :=
    Table.exists_stands hcompiler hengine
  refine ⟨earlier, first, last, f, hbase, hplace ▸ hstands, fun hplain => ?_, fun name hlast => ?_⟩
  · refine Table.forall_types_addRoutes ?_ (htake ▸ hplain) hearlier
    exact Engine.arePlain_defaultTypes
  · exact hnamed name hlast.named (hlast.of_mem_after hroutes hplace)

/-! ## Requests and URLs -/

section

variable {r : Router} {t : Table} (hbuild : r.build.result = .ok t)
  (hbase : t.engine.basePath = r.basePath)

include hbuild hbase

theorem find_below (method : String) (rest : List Char) :
    (r.find method (r.basePath ++ .ofList rest)).result =
      ((Engine.firstHit (Text.upper method) rest t.engine.entries).map
        (Option.map fun hit => (⟨hit.target, ⟨hit.params⟩⟩ : Found))).mapError .engine := by
  rw [find_of_build hbuild, Table.find, Engine.lookup, hbase, String.toList_append,
    String.toList_ofList, Engine.remainder?_append]

theorem exists_hit_of_find {method : String} {rest : List Char} {found : Found}
    (h : (r.find method (r.basePath ++ .ofList rest)).result = .ok (some found)) :
    ∃ hit, Engine.firstHit (Text.upper method) rest t.engine.entries = .ok (some hit) ∧
      found = ⟨hit.target, ⟨hit.params⟩⟩ := by
  rw [find_below hbuild hbase] at h
  cases hhit : Engine.firstHit (Text.upper method) rest t.engine.entries with
  | error error => simp [hhit, Except.map, Except.mapError] at h
  | ok answer =>
      cases answer with
      | none => simp [hhit, Except.map, Except.mapError] at h
      | some hit =>
          simp only [hhit, Except.map, Except.mapError, Option.map_some, Except.ok.injEq,
            Option.some.injEq] at h
          exact ⟨hit, rfl, h.symm⟩

theorem url_eq_ok_iff {place : Nat} {name : String} {route : Route}
    (hlast : r.LastNamed place name route) {entry : Entry Nat}
    (hnamed : t.engine.named.find? name = some entry) (params : Pairs Value) (u : String) :
    (r.url name params).result = .ok u ↔
      checkConstraints route.constraints name params.entries = .ok () ∧
        ∃ text, Engine.fillPieces t.engine.types name params (Pattern.scan entry.pattern.toList) =
          .ok text ∧ u = r.basePath ++ .ofList text := by
  rw [url_of_build hbuild, hlast.named?_eq, Option.map_some, Option.getD_some]
  cases hcheck : checkConstraints route.constraints name params.entries with
  | error error => simp [Except.bind]
  | ok =>
      simp only [Except.bind, true_and]
      rw [generate, Table.generate, Engine.generate, hnamed]
      cases hfill : Engine.fillPieces t.engine.types name params
          (Pattern.scan entry.pattern.toList) with
      | error error => cases error <;> simp [hfill, bind, Except.bind]
      | ok text =>
          simp only [hfill, bind, Except.bind, pure, Except.pure, hbase, Except.ok.injEq]
          constructor
          · intro h
            exact ⟨text, rfl, h.symm⟩
          · rintro ⟨written, htext, hu⟩
            rw [hu, htext]

end

/-! ## Plain expressions -/

section

variable {r : Router} {t : Table} {place : Nat} {route : Route} {earlier : Engine Nat}
  {first last : List (Entry Nat)} {f : Table.Forms} (h : r.Serves t place route earlier first last f)

include h

theorem Serves.target_le {entry : Entry Nat} (hentry : entry ∈ earlier.entries) :
    entry.target ≤ place := by
  rw [h.stands.registered] at hentry
  rcases List.mem_append.mp hentry with hbefore | hown
  · exact Nat.le_of_lt (h.stands.before entry hbefore)
  · obtain ⟨compiler, hform⟩ := h.stands.form
    exact Nat.le_of_eq (hform.target hown)

theorem Serves.mem_earlier {entry : Entry Nat} (hentry : entry ∈ t.engine.entries)
    (htarget : entry.target ≤ place) : entry ∈ earlier.entries := by
  rw [h.stands.entries] at hentry
  rw [h.stands.registered]
  refine (List.mem_append.mp hentry).resolve_right fun hlater => ?_
  have := h.stands.after entry hlater
  omega

theorem Serves.methods_canonical {method : String} (hmethod : method ∈ route.methods) :
    f.canonical.methods.contains (Text.upper method) = true := by
  obtain ⟨compiler, hform⟩ := h.stands.form
  obtain ⟨compiled, hcanonical⟩ := hform.canonical
  rw [hcanonical, List.contains_iff_mem]
  exact List.mem_map.mpr ⟨method, hmethod, rfl⟩

theorem Serves.canonical_mem : f.canonical ∈ earlier.entries := by
  rw [h.stands.registered]
  simp [Table.Forms.entries]

theorem Serves.entries_eq : t.engine.entries = first ++ f.canonical :: f.bare :: last := by
  rw [h.stands.entries, Table.Forms.entries, List.append_assoc]
  rfl

theorem Serves.spells_canonical (hplain : ArePlain earlier.types) {name : String}
    {params : Pairs Value} {text : List Char}
    (htext : Engine.fillPieces t.engine.types name params (Pattern.scan f.canonical.pattern.toList) =
      .ok text) :
    ∃ slots, Engine.Slot.resolve? earlier.types (Pattern.scan f.canonical.pattern.toList) =
        some slots ∧
      Engine.Decides f.canonical.compiled slots ∧
      Engine.Slot.Spells slots (Engine.Slot.valuesOf (Engine.givenText? params) slots) text := by
  obtain ⟨slots, hslots, hdecides⟩ := h.stands.sound.exists_slots hplain h.canonical_mem
  refine ⟨slots, hslots, hdecides, ?_⟩
  have hmore := Engine.resolve?_of_extends h.stands.types hslots
  exact (Engine.fillPieces_eq_ok_iff hmore (hplain.regexes hslots) name params text).mp htext

theorem Serves.resolve?_canonical (hroute : route.IsTemplate) :
    Engine.Slot.resolve? earlier.types (Pattern.scan f.canonical.pattern.toList) =
      some route.canonicalSlots := by
  obtain ⟨compiler, hform⟩ := h.stands.form
  obtain ⟨compiled, hcanonical⟩ := hform.canonical
  simp only [hcanonical, Engine.newEntry]
  rw [Template.resolve?_canonical hroute.trimmed hroute.bracket hform.writable hform.binds,
    Route.canonicalSlots]

theorem Serves.resolve?_bare (hroute : route.IsTemplate) :
    Engine.Slot.resolve? earlier.types (Pattern.scan f.bare.pattern.toList) = some route.slots := by
  obtain ⟨compiler, hform⟩ := h.stands.form
  obtain ⟨compiled, hbare⟩ := hform.bare
  simp only [hbare, Engine.newEntry]
  rw [Template.resolve?_bare hroute.trimmed hroute.bracket hform.writable hform.binds, Route.slots]

theorem Serves.exists_slots (hplain : ArePlain earlier.types) (hroute : route.IsTemplate)
    {entry : Entry Nat} (hentry : entry ∈ t.engine.entries) (htarget : entry.target = place) :
    ∃ slots, (slots = route.canonicalSlots ∨ slots = route.slots) ∧
      Engine.Decides entry.compiled slots := by
  have hearlier := h.mem_earlier hentry (Nat.le_of_eq htarget)
  obtain ⟨slots, hslots, hdecides⟩ := h.stands.sound.exists_slots hplain hearlier
  refine ⟨slots, ?_, hdecides⟩
  rw [h.stands.registered] at hearlier
  rcases List.mem_append.mp hearlier with hbefore | hown
  · have := h.stands.before entry hbefore
    omega
  · simp only [Table.Forms.entries, List.mem_cons, List.not_mem_nil, or_false] at hown
    rcases hown with rfl | rfl
    · exact .inl (Option.some.inj (hslots.symm.trans (h.resolve?_canonical hroute)))
    · exact .inr (Option.some.inj (hslots.symm.trans (h.resolve?_bare hroute)))

theorem Serves.answers (hplain : ArePlain earlier.types) {entry : Entry Nat}
    (hentry : entry ∈ earlier.entries) : entry.Answers := by
  obtain ⟨slots, -, hdecides⟩ := h.stands.sound.exists_slots hplain hentry
  exact hdecides.answers

/--
A text that spells the canonical form is found.  What is found belongs to an
earlier route, or its parameters are values with which the form spells the text.
-/
theorem Serves.find_of_spells (hbuild : r.build.result = .ok t) (hplain : ArePlain earlier.types)
    {slots : List Engine.Slot} (hdecides : Engine.Decides f.canonical.compiled slots)
    {values : List (Option (List Char))} {text : List Char}
    (hspells : Engine.Slot.Spells slots values text) {method : String}
    (hmethod : method ∈ route.methods) :
    ∃ found, (r.find method (r.basePath ++ .ofList text)).result = .ok (some found) ∧
      (found.route < place ∨ ∃ others, Engine.Slot.Spells slots others text ∧
        found = ⟨place, ⟨.ofList (Engine.Slot.captured slots others)⟩⟩) := by
  have hfirst : ∀ entry ∈ first, entry.Answers := fun entry hentry =>
    h.answers hplain (by rw [h.stands.registered]; exact List.mem_append_left _ hentry)
  obtain ⟨answer, hanswer⟩ := Engine.exists_firstHit hfirst (Text.upper method) text
  rw [find_below hbuild h.basePath, h.entries_eq]
  cases answer with
  | some hit =>
      obtain ⟨entry, hentry, cursor, -, hhit⟩ := Engine.exists_entry_of_firstHit hanswer
      rw [Engine.firstHit_append_of_some hanswer]
      refine ⟨_, rfl, .inl ?_⟩
      simp only [Engine.target_of_hit hhit]
      exact h.stands.before entry hentry
  | none =>
      obtain ⟨cursor, hfits⟩ := hdecides.fits (h.methods_canonical hmethod) hspells
      obtain ⟨others, hothers, hhit⟩ := hdecides.hit hfits
      rw [Engine.firstHit_append_of_none hanswer, Engine.firstHit_cons_of_fits hfits, hhit]
      refine ⟨_, rfl, .inr ⟨others, hothers, ?_⟩⟩
      obtain ⟨compiler, hform⟩ := h.stands.form
      rw [hform.target (show f.canonical ∈ f.entries from List.mem_cons_self)]

end

end Router

end HttpRouting
