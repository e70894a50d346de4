import HttpRouting.Proofs.Engine.Answering
import HttpRouting.Proofs.Table.Layout

/-!
# The place of a route in a table

A table is built route by route, so the routes up to a place make up a table of
their own, and what comes later neither changes its entries nor its types.  A
request is answered by the earlier routes, by the two forms of the route at the
place, or by the later routes, in this order.
-/

namespace HttpRouting

def Route.HasPlainConstraints (route : Route) : Prop :=
  ∀ entry ∈ route.constraints.entries, Regex.Expression.IsPlainText entry.2

namespace Table

open Engine (Entry)

/-! ## Types -/

theorem constraint_of_binding {constraints : Pairs String} {pieces : List Template.Piece}
    {compiler : Template.Compiler} {entry : String × String}
    (h : entry ∈ (Template.Compiler.tagPieces constraints pieces compiler).1.filterMap
      Template.Compiler.Part.binding?) : ∃ param, (param, entry.2) ∈ constraints.entries := by
  obtain ⟨part, hpart, hbinding⟩ := List.mem_filterMap.mp h
  cases part with
  | literal c => simp [Template.Compiler.Part.binding?] at hbinding
  | param p regex =>
      obtain ⟨tag, htag, rfl⟩ := Option.map_eq_some_iff.mp hbinding
      exact ⟨p.name, Pairs.mem_of_find? (Template.Compiler.constraint_of_param hpart htag)⟩

theorem forall_types_addTypes {P : String → Prop} {e : Engine Nat}
    (h : ∀ type regex, e.types.find? type = some regex → P regex) (compiler : Template.Compiler)
    {route : Route} (hroute : ∀ entry ∈ route.constraints.entries, P entry.2) :
    ∀ type regex,
      (e.addTypes (compiler.compile route.uri route.constraints).1.types).types.find? type =
        some regex → P regex := by
  intro type regex hfound
  rw [Engine.addTypes, Pairs.merge, Pairs.find?_insertAll] at hfound
  rcases Option.or_eq_some_iff.mp hfound with htag | ⟨-, hold⟩
  · have hmem := List.mem_reverse.mp (Pairs.mem_of_valueOf? htag)
    rw [Template.Compiler.entries_types_compile] at hmem
    obtain ⟨param, hparam⟩ := constraint_of_binding hmem
    exact hroute _ hparam
  · exact h _ _ hold

theorem forall_types_addRoutes {P : String → Prop} {place : Nat} {routes : List Route}
    {e next : Engine Nat} {compiler : Template.Compiler}
    (he : ∀ type regex, e.types.find? type = some regex → P regex)
    (hroutes : ∀ route ∈ routes, ∀ entry ∈ route.constraints.entries, P entry.2)
    (h : (addRoutes place routes e compiler).1 = .ok next) :
    ∀ type regex, next.types.find? type = some regex → P regex := by
  induction routes generalizing place e compiler with
  | nil =>
      obtain rfl := Except.ok.inj h
      exact he
  | cons route rest ih =>
      rw [List.forall_mem_cons] at hroutes
      simp only [addRoutes] at h
      cases hforms : addForms e place route (compiler.compile route.uri route.constraints).1 with
      | error error => simp [hforms] at h
      | ok middle =>
          simp only [hforms] at h
          refine ih ?_ hroutes.2 h
          unfold addForms at hforms
          cases hmap : (e.addTypes (compiler.compile route.uri route.constraints).1.types).map
              route.methods (compiler.compile route.uri route.constraints).1.canonical place
              route.name with
          | error error => simp [hmap, bind, Except.bind] at hforms
          | ok first =>
              simp only [hmap, bind, Except.bind] at hforms
              rw [Engine.types_of_map hforms, Engine.types_of_map hmap]
              exact forall_types_addTypes he compiler hroutes.1

/-! ## Parts of a table -/

theorem exists_prefix {place : Nat} {first second : List Route} {e next : Engine Nat}
    {compiler : Template.Compiler} (h : (addRoutes place (first ++ second) e compiler).1 = .ok next) :
    ∃ middle, (addRoutes place first e compiler).1 = .ok middle ∧
      (addRoutes (place + first.length) second middle (addRoutes place first e compiler).2).1 =
        .ok next := by
  induction first generalizing place e compiler with
  | nil => exact ⟨e, rfl, h⟩
  | cons route rest ih =>
      simp only [List.cons_append, addRoutes] at h ⊢
      cases hforms : addForms e place route (compiler.compile route.uri route.constraints).1 with
      | error error => simp [hforms] at h
      | ok middle =>
          simp only [hforms] at h ⊢
          obtain ⟨last, hlast, hnext⟩ := ih h
          refine ⟨last, hlast, ?_⟩
          rwa [List.length_cons, show place + (rest.length + 1) = place + 1 + rest.length by omega]

theorem Holds.target {place : Nat} {routes : List Route} {e next : Engine Nat} {forms : List Forms}
    (h : Holds place routes e next forms) {entry : Entry Nat}
    (hentry : entry ∈ forms.flatMap Forms.entries) :
    place ≤ entry.target ∧ entry.target < place + routes.length := by
  obtain ⟨f, hf, hentry⟩ := List.mem_flatMap.mp hentry
  obtain ⟨i, hi⟩ := List.getElem?_of_mem hf
  obtain ⟨route, compiler, hroute, hof⟩ := h.form i f hi
  obtain ⟨hlength, -⟩ := List.getElem?_eq_some_iff.mp hroute
  rw [hof.target hentry]
  omega

theorem Holds.find?_named {place : Nat} {routes : List Route} {e next : Engine Nat}
    {forms : List Forms} (h : Holds place routes e next forms) {name : String}
    (hroutes : ∀ route ∈ routes, route.name ≠ some name) :
    next.named.find? name = e.named.find? name := by
  have hforms : ∀ f ∈ forms, f.canonical.name ≠ some name := by
    intro f hf
    obtain ⟨i, hi⟩ := List.getElem?_of_mem hf
    obtain ⟨route, compiler, hroute, hof⟩ := h.form i f hi
    obtain ⟨compiled, hcanonical⟩ := hof.canonical
    rw [hcanonical]
    exact hroutes route (List.mem_of_getElem? hroute)
  have hname (named : Pairs (Entry Nat)) :
      (nameForms named forms).find? name = named.find? name := by
    clear h
    induction forms generalizing named with
    | nil => rfl
    | cons f rest ih =>
        rw [List.forall_mem_cons] at hforms
        refine (ih hforms.2 (Engine.rename named f.canonical)).trans ?_
        unfold Engine.rename
        split
        next => rfl
        next other hother =>
          rw [Pairs.find?_insert, if_neg]
          rintro rfl
          exact hforms.1 hother
  rw [h.named, hname]

/-- The forms of the route at a place, behind the entries of the routes before it. -/
structure Stands (e : Engine Nat) (place : Nat) (route : Route) (earlier : Engine Nat)
    (first last : List (Entry Nat)) (f : Forms) : Prop where
  entries : e.entries = first ++ f.entries ++ last
  registered : earlier.entries = first ++ f.entries
  sound : earlier.IsSound
  types : earlier.types.Extends e.types
  before : ∀ entry ∈ first, entry.target < place
  after : ∀ entry ∈ last, place < entry.target
  form : ∃ compiler, f.IsOf earlier.types place route compiler

theorem exists_stands {basePath : String} {compiler : Template.Compiler} (hcompiler : compiler.IsWritable)
    {before after : List Route} {route : Route} {e : Engine Nat}
    (h : (addRoutes 0 (before ++ route :: after) { basePath := basePath } compiler).1 = .ok e) :
    ∃ earlier first last f, Stands e before.length route earlier first last f ∧
      (addRoutes 0 (before ++ [route]) { basePath := basePath } compiler).1 = .ok earlier ∧
      ∀ name, route.name = some name → (∀ later ∈ after, later.name ≠ some name) →
        e.named.find? name = some f.canonical := by
  rw [List.append_cons] at h
  obtain ⟨earlier, hearlier, hlater⟩ := exists_prefix h
  obtain ⟨start, hstart, hroute⟩ := exists_prefix hearlier
  obtain ⟨formsBefore, hbefore, hready⟩ :=
    addRoutes_ok (Engine.isReadyFor_new basePath hcompiler) hstart
  obtain ⟨formsRoute, hforms, -⟩ := addRoutes_ok hready hroute
  obtain ⟨f, rfl⟩ := List.length_eq_one_iff.mp hforms.length
  obtain ⟨-, -, hreadyEarlier⟩ :=
    addRoutes_ok (Engine.isReadyFor_new basePath hcompiler) hearlier
  obtain ⟨formsAfter, hafter, -⟩ := addRoutes_ok hreadyEarlier hlater
  have hstartEntries : start.entries = formsBefore.flatMap Forms.entries := by
    simpa using hbefore.entries
  have hregistered : earlier.entries = formsBefore.flatMap Forms.entries ++ f.entries := by
    rw [hforms.entries, hstartEntries]
    simp
  obtain ⟨other, compiler', hother, hof⟩ := hforms.form 0 f rfl
  obtain rfl : route = other := Option.some.inj hother
  refine ⟨earlier, formsBefore.flatMap Forms.entries, formsAfter.flatMap Forms.entries, f,
    ⟨?_, hregistered, hreadyEarlier.sound, hafter.types, ?_, ?_, compiler', ?_⟩, hearlier, ?_⟩
  · rw [hafter.entries, hregistered]
  · intro entry hentry
    simpa using (hbefore.target hentry).2
  · intro entry hentry
    have hplace := (hafter.target hentry).1
    rw [List.length_append, List.length_singleton] at hplace
    omega
  · simpa using hof
  · intro name hname hothers
    obtain ⟨compiled, hcanonical⟩ := hof.canonical
    have hnamed : earlier.named.find? name = some f.canonical := by
      rw [hforms.named]
      change (Engine.rename start.named f.canonical).find? name = _
      have hown : f.canonical.name = some name := by
        rw [hcanonical]
        exact hname
      rw [Engine.rename, hown]
      simp [Pairs.find?_insert]
    rw [hafter.find?_named hothers, hnamed]

end Table

end HttpRouting
