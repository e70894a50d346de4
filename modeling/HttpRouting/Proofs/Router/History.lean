import HttpRouting.Proofs.Router.Calls
import HttpRouting.Proofs.Router.Lookup

/-!
# Histories

The numbers of tags are all that is left of what a router has been through.
Two routers with the same base path and the same routes compile both or fail
both, for the same reason up to these numbers, and look up the same.
-/

namespace HttpRouting

open Engine (Slot)
open Table (addForms addRoutes blame)
open Template (Compiler absorbMarks canonicalPieces)
open Template.Compiler (Part tagNumbered tagPieces)

/-! ## Texts up to the numbers of tags -/

/-- Texts that differ at most in the numbers of the tags of blocks. -/
inductive SameUpToTags : List Char → List Char → Prop
  | nil : SameUpToTags [] []
  | char (c : Char) {s t : List Char} : SameUpToTags s t → SameUpToTags (c :: s) (c :: t)
  | tag (m n : Nat) {s t : List Char} : SameUpToTags s t →
      SameUpToTags ('[' :: (tagNumbered "sp" m).toList ++ ':' :: s)
        ('[' :: (tagNumbered "sp" n).toList ++ ':' :: t)

theorem SameUpToTags.append_left {s t : List Char} (h : SameUpToTags s t) (front : List Char) :
    SameUpToTags (front ++ s) (front ++ t) := by
  induction front with
  | nil => exact h
  | cons c front ih => exact .char c ih

theorem SameUpToTags.refl (s : List Char) : SameUpToTags s s := by
  simpa using SameUpToTags.nil.append_left s

theorem SameUpToTags.append_right {s t : List Char} (h : SameUpToTags s t) (back : List Char) :
    SameUpToTags (s ++ back) (t ++ back) := by
  induction h with
  | nil => exact .refl back
  | char c _ ih => exact .char c ih
  | tag m n _ ih =>
      simp only [List.cons_append, List.append_assoc] at ih ⊢
      exact .tag m n ih

theorem sameUpToTags_tagPieces (constraints : Pairs String) (pieces : List Template.Piece)
    {compiler other : Compiler} (h : compiler.stem = "sp") (h' : other.stem = "sp") :
    SameUpToTags ((tagPieces constraints pieces compiler).1.flatMap Part.text)
      ((tagPieces constraints pieces other).1.flatMap Part.text) := by
  induction pieces generalizing compiler other with
  | nil => exact .nil
  | cons piece rest ih =>
      cases piece with
      | literal c =>
          simp only [Compiler.tagPieces_literal, List.flatMap_cons]
          exact (ih h h').append_left _
      | token t =>
          cases hconstraint : Compiler.constraint? constraints t with
          | none =>
              simp only [tagPieces, hconstraint, List.flatMap_cons]
              exact (ih h h').append_left _
          | some regex =>
              have hrest := @ih { compiler with next := compiler.next + 1 }
                { other with next := other.next + 1 } h h'
              have htag : compiler.tag = tagNumbered "sp" compiler.next := by
                rw [Compiler.tag, h, tagNumbered]
              have htag' : other.tag = tagNumbered "sp" other.next := by
                rw [Compiler.tag, h', tagNumbered]
              simp only [tagPieces, hconstraint, List.flatMap_cons, Part.text,
                Template.Param.block, Option.getD_some, htag, htag', List.cons_append,
                List.append_assoc]
              exact .tag _ _ ((hrest.append_left _).append_left _)

/-- Errors of a table that differ at most in the numbers of tags. -/
inductive TableError.Resembles : TableError → TableError → Prop
  | invalidRoute (uri : String) {cause cause' : PatternError} :
      SameUpToTags cause.message.toList cause'.message.toList →
      Resembles (.invalidRoute uri cause) (.invalidRoute uri cause')
  | regex {e : Regex.Error} : (∀ cause position, e ≠ .invalid cause position) →
      Resembles (.engine (.regex e)) (.engine (.regex e))

theorem SameUpToTags.message_invalid {pattern pattern' : String}
    (h : SameUpToTags pattern.toList pattern'.toList) (e : Regex.Error) :
    SameUpToTags (PatternError.invalid pattern e).message.toList
      (PatternError.invalid pattern' e).message.toList := by
  have hmessage (pattern : String) : (PatternError.invalid pattern e).message =
      "Pattern `" ++ pattern ++ "` does not compile: " ++ e.message := rfl
  rw [hmessage, hmessage]
  simp only [String.toList_append, List.append_assoc]
  exact (h.append_right _).append_left _

theorem resembles_blame {pattern pattern' : String} (uri : String) (cause : Regex.Error)
    (h : SameUpToTags pattern.toList pattern'.toList) :
    (blame uri (Engine.blame pattern cause)).Resembles (blame uri (Engine.blame pattern' cause)) := by
  cases cause with
  | invalid cause position => exact .invalidRoute uri (h.message_invalid _)
  | _ => exact .regex (by simp)

theorem compile_sameUpToTags {pattern pattern' : String}
    (h : SameUpToTags pattern.toList pattern'.toList) (slots : List Slot) (uri : String) :
    (∃ compiled, Slot.compile pattern slots = .ok compiled ∧
      Slot.compile pattern' slots = .ok compiled) ∨
    ∃ error error', Slot.compile pattern slots = .error error ∧
      Slot.compile pattern' slots = .error error' ∧
      (blame uri error).Resembles (blame uri error') := by
  cases hread : Regex.Expression.read (Slot.regexFrom 0 slots) with
  | error cause =>
      refine .inr ⟨Engine.blame pattern cause, Engine.blame pattern' cause, ?_, ?_,
        resembles_blame uri cause h⟩ <;>
      · rw [Slot.compile, hread]
        rfl
  | ok expression =>
      refine .inl ⟨⟨expression, .ofList (Slot.groupsFrom 0 slots)⟩, ?_, ?_⟩ <;>
      · rw [Slot.compile, hread]
        rfl

/-! ## Routes that are alike -/

section

variable {ε δ α β : Type} {x : Except ε α} {f : ε → δ} {g : α → β}

theorem exists_ok_of_map_mapError {b : β} (h : (x.mapError f).map g = .ok b) : ∃ a, x = .ok a := by
  cases x with
  | error error => simp [Except.mapError, Except.map] at h
  | ok a => exact ⟨a, rfl⟩

theorem exists_error_of_map_mapError {d : δ} (h : (x.mapError f).map g = .error d) :
    ∃ error, x = .error error ∧ f error = d := by
  cases x with
  | error error => exact ⟨error, rfl, Except.error.inj h⟩
  | ok a => simp [Except.mapError, Except.map] at h

end

/-- Routes that are alike up to their actions and the order of their constraints. -/
structure Route.Alike (route other : Route) : Prop where
  methods : route.methods = other.methods
  uri : route.uri = other.uri
  name : route.name = other.name
  constraints : ∀ param, route.constraints.find? param = other.constraints.find? param

theorem Template.tagPieces_congr {constraints others : Pairs String}
    (h : ∀ param, constraints.find? param = others.find? param) (pieces : List Piece)
    (compiler : Compiler) :
    tagPieces constraints pieces compiler = tagPieces others pieces compiler := by
  induction pieces generalizing compiler with
  | nil => rfl
  | cons piece rest ih =>
      cases piece with
      | literal c => simp only [tagPieces, ih]
      | token t => simp only [tagPieces, ih, constraint?_congr h]

section

variable {route other : Route} (h : route.Alike other)

include h

theorem Route.Alike.slots : route.slots = other.slots := by
  rw [Route.slots, Route.slots, h.uri, Template.slots_congr h.constraints]

theorem Route.Alike.canonicalSlots : route.canonicalSlots = other.canonicalSlots := by
  rw [Route.canonicalSlots, Route.canonicalSlots, h.uri, Template.slots_congr h.constraints]

theorem Route.Alike.compileForms : route.compileForms = other.compileForms := by
  rw [Route.compileForms, Route.compileForms, h.slots, h.canonicalSlots]

theorem Route.Alike.check : route.check = other.check := by
  rw [Route.check, Route.check, h.compileForms, h.uri]

theorem Route.Alike.found (basePath method path : String) :
    route.found basePath method path = other.found basePath method path := by
  rw [Route.found, Route.found, Route.entries, Route.entries, h.compileForms, h.methods]

theorem Route.Alike.written (basePath name : String) (params : Pairs Value) :
    route.written basePath name params = other.written basePath name params := by
  rw [Route.written, Route.written, h.canonicalSlots]

theorem Route.Alike.checkConstraints (name : String) (params : List (String × Value)) :
    Router.checkConstraints route.constraints name params =
      Router.checkConstraints other.constraints name params := by
  induction params with
  | nil => rfl
  | cons entry rest ih => simp only [Router.checkConstraints, h.constraints, ih]

theorem Route.Alike.checkNamed (hroute : Path.IsTrimmed route.uri.toList) {compiler compiler' : Compiler}
    (hstem : compiler.stem = "sp") (hstem' : compiler'.stem = "sp") :
    route.checkNamed compiler = .ok () ∧ other.checkNamed compiler' = .ok () ∨
      ∃ error error', route.checkNamed compiler = .error error ∧
        other.checkNamed compiler' = .error error' ∧ error.Resembles error' := by
  have hcanonical : SameUpToTags
      (compiler.compile route.uri route.constraints).1.canonical.toList
      (compiler'.compile other.uri other.constraints).1.canonical.toList := by
    rw [← h.uri, Template.toList_canonical hroute route.constraints compiler,
      Template.toList_canonical hroute other.constraints compiler',
      ← Template.tagPieces_congr h.constraints]
    exact sameUpToTags_tagPieces _ _ hstem hstem'
  have hbare : SameUpToTags (compiler.compile route.uri route.constraints).1.bare.toList
      (compiler'.compile other.uri other.constraints).1.bare.toList := by
    rw [← h.uri, Template.toList_bare hroute route.constraints compiler,
      Template.toList_bare hroute other.constraints compiler',
      ← Template.tagPieces_congr h.constraints]
    exact sameUpToTags_tagPieces _ _ hstem hstem'
  simp only [Route.checkNamed, ← h.canonicalSlots, ← h.slots, ← h.uri] at hcanonical hbare ⊢
  rcases compile_sameUpToTags hcanonical route.canonicalSlots route.uri with
    ⟨canonical, hfirst, hfirst'⟩ | ⟨error, error', hfirst, hfirst', hsame⟩
  · rcases compile_sameUpToTags hbare route.slots route.uri with
      ⟨bare, hsecond, hsecond'⟩ | ⟨error, error', hsecond, hsecond', hsame⟩
    · rw [hfirst, hfirst', hsecond, hsecond']
      exact .inl ⟨rfl, rfl⟩
    · rw [hfirst, hfirst', hsecond, hsecond']
      exact .inr ⟨blame route.uri error, blame route.uri error', rfl, rfl, hsame⟩
  · rw [hfirst, hfirst']
    exact .inr ⟨blame route.uri error, blame route.uri error', rfl, rfl, hsame⟩

theorem Route.Alike.isTemplate (hroute : route.IsTemplate) : other.IsTemplate := by
  obtain ⟨htrimmed, hbracket⟩ := hroute
  rw [h.uri] at htrimmed hbracket
  exact ⟨htrimmed, hbracket⟩

theorem Route.Alike.addForms (hroute : route.IsTemplate) {e e' : Engine Nat}
    {compiler compiler' : Compiler} (hready : e.IsReadyFor compiler)
    (hready' : e'.IsReadyFor compiler') (hstem : compiler.stem = "sp") (hstem' : compiler'.stem = "sp")
    (place : Nat) :
    (∃ next next',
      Table.addForms e place route (compiler.compile route.uri route.constraints).1 = .ok next ∧
      Table.addForms e' place other (compiler'.compile other.uri other.constraints).1 = .ok next') ∨
    ∃ error error',
      Table.addForms e place route (compiler.compile route.uri route.constraints).1 = .error error ∧
      Table.addForms e' place other (compiler'.compile other.uri other.constraints).1 =
        .error error' ∧
      (blame route.uri error).Resembles (blame other.uri error') := by
  have hcheck := Table.addForms_checkNamed hready place hroute
  have hcheck' := Table.addForms_checkNamed hready' place (h.isTemplate hroute)
  rcases h.checkNamed hroute.trimmed hstem hstem' with
    ⟨hok, hok'⟩ | ⟨own, own', herror, herror', hsame⟩
  · obtain ⟨next, hnext⟩ := exists_ok_of_map_mapError (hcheck.trans hok)
    obtain ⟨next', hnext'⟩ := exists_ok_of_map_mapError (hcheck'.trans hok')
    exact .inl ⟨next, next', hnext, hnext'⟩
  · obtain ⟨error, hfails, rfl⟩ := exists_error_of_map_mapError (hcheck.trans herror)
    obtain ⟨error', hfails', rfl⟩ := exists_error_of_map_mapError (hcheck'.trans herror')
    exact .inr ⟨error, error', hfails, hfails', hsame⟩

end

/-! ## Two tables -/

/--
Two engines in which routes are registered that are alike.  Both registrations
succeed, or both fail at the same route; they never depart from each other,
since a registration leaves an engine ready for the next one.
-/
theorem Table.addRoutes_alike {place : Nat} {routes others : List Route}
    (h : List.Forall₂ Route.Alike routes others) (hroutes : ∀ route ∈ routes, route.IsTemplate)
    {e e' : Engine Nat} {compiler compiler' : Compiler} (hready : e.IsReadyFor compiler)
    (hready' : e'.IsReadyFor compiler') (hstem : compiler.stem = "sp") (hstem' : compiler'.stem = "sp")
    {error : TableError} (hfails : (addRoutes place routes e compiler).1 = .error error) :
    ∃ error', (addRoutes place others e' compiler').1 = .error error' ∧ error.Resembles error' := by
  induction h generalizing place e e' compiler compiler' with
  | nil => simp [addRoutes] at hfails
  | @cons route other rest more hfirst hrest ih =>
      rw [List.forall_mem_cons] at hroutes
      simp only [addRoutes] at hfails ⊢
      rcases hfirst.addForms hroutes.1 hready hready' hstem hstem' place with
        ⟨next, next', hforms, hforms'⟩ | ⟨cause, cause', hforms, hforms', hsame⟩
      · rw [hforms] at hfails
        rw [hforms']
        obtain ⟨-, -, hnext⟩ := addForms_ok hready hforms
        obtain ⟨-, -, hnext'⟩ := addForms_ok hready' hforms'
        exact ih hroutes.2 hnext hnext'
          ((Compiler.tagPieces_stem _ _ compiler).trans hstem)
          ((Compiler.tagPieces_stem _ _ compiler').trans hstem') hfails
      · rw [hforms] at hfails
        rw [hforms']
        obtain rfl : blame route.uri cause = error := Except.error.inj hfails
        exact ⟨blame other.uri cause', rfl, hsame⟩

namespace Router

variable {r s : Router}

theorem Reachable.stem (h : r.Reachable) : r.compiler.stem = "sp" := by
  refine h.induct (P := fun r => r.compiler.stem = "sp") (fun r _ _ hcompiler => ?_)
    fun r operation s hstep hr => ?_
  · rw [hcompiler]
  · cases hstep with
    | renumber _ hstem => exact hstem.trans hr
    | compile _ _ hstem => exact hstem.trans hr
    | rebase path _ =>
        rw [setBasePath]
        dsimp only
        split <;> exact hr
    | _ => exact hr

theorem table_of_not_builds (h : ¬ r.Builds) : r.table = none := by
  cases htable : r.table with
  | none => rfl
  | some t => exact absurd ⟨t, build_of_table htable⟩ h

theorem named?_alike (h : List.Forall₂ Route.Alike r.routes s.routes) (name : String) :
    r.named? name = none ∧ s.named? name = none ∨
      ∃ route other, r.named? name = some route ∧ s.named? name = some other ∧
        route.Alike other := by
  rw [named?, named?]
  have hreverse := List.forall₂_reverse_iff.mpr h
  generalize r.routes.reverse = routes at hreverse
  generalize s.routes.reverse = others at hreverse
  induction hreverse with
  | nil => exact .inl ⟨rfl, rfl⟩
  | @cons route other rest more hfirst _ ih =>
      rw [List.find?_cons, List.find?_cons, ← hfirst.name]
      cases route.name == some name with
      | true => exact .inr ⟨route, other, rfl, rfl, hfirst⟩
      | false => exact ih

theorem build_result_addRoutes (hopen : r.table = none) :
    r.build.result =
      ((addRoutes 0 r.routes { basePath := r.basePath } r.compiler).1.map fun engine =>
        (⟨r.basePath, r.routes, engine⟩ : Table)).mapError .table := build_result hopen

theorem bracket_alike (hroutes : List.Forall₂ Route.Alike r.routes s.routes)
    (hbracket : ∀ route ∈ r.routes, '[' ∉ route.uri.toList) :
    ∀ route ∈ s.routes, '[' ∉ route.uri.toList :=
  (forall_iff_of_forall₂ hroutes fun route other h => by rw [h.uri]).mp hbracket

section

variable (hr : r.Reachable) (hs : s.Reachable)
  (hroutes : List.Forall₂ Route.Alike r.routes s.routes)
  (hbracket : ∀ route ∈ r.routes, '[' ∉ route.uri.toList)

include hr hs hroutes hbracket

theorem builds_alike : r.Builds ↔ s.Builds := by
  rw [hr.builds_iff hbracket, hs.builds_iff (bracket_alike hroutes hbracket)]
  exact forall_iff_of_forall₂ hroutes fun route other h => by rw [h.check]

theorem find_alike (hbase : r.basePath = s.basePath) (hbuilds : r.Builds) (method path : String) :
    (r.find method path).result = (s.find method path).result := by
  rw [hr.find_eq hbracket hbuilds, hs.find_eq (bracket_alike hroutes hbracket)
    ((builds_alike hr hs hroutes hbracket).mp hbuilds), hbase,
    map_eq_of_forall₂ hroutes fun route other h => by rw [h.found]]

theorem url_alike (hbase : r.basePath = s.basePath) (hbuilds : r.Builds) (name : String)
    (params : Pairs Value) : (r.url name params).result = (s.url name params).result := by
  rw [hr.url_eq hbracket hbuilds, hs.url_eq (bracket_alike hroutes hbracket)
    ((builds_alike hr hs hroutes hbracket).mp hbuilds)]
  rcases named?_alike hroutes name with ⟨hnone, hnone'⟩ | ⟨route, other, hroute, hother, halike⟩
  · rw [hnone, hnone']
  · simp only [hroute, hother, halike.checkConstraints, halike.written, hbase]

theorem exists_error_alike (hfails : ¬ r.Builds) :
    ∃ error error', error.Resembles error' ∧ r.build.result = .error (.table error) ∧
      s.build.result = .error (.table error') := by
  have hbuild := build_result_addRoutes (table_of_not_builds hfails)
  have hbuild' := build_result_addRoutes
    (table_of_not_builds (mt (builds_alike hr hs hroutes hbracket).mpr hfails))
  cases hresult : (addRoutes 0 r.routes { basePath := r.basePath } r.compiler).1 with
  | ok engine => exact absurd ⟨_, by rw [hbuild, hresult]; rfl⟩ hfails
  | error error =>
      obtain ⟨error', herror', hsame⟩ := Table.addRoutes_alike hroutes (hr.isTemplate hbracket)
        (Engine.isReadyFor_new r.basePath hr.isConsistent.writable)
        (Engine.isReadyFor_new s.basePath hs.isConsistent.writable) hr.stem hs.stem hresult
      exact ⟨error, error', hsame, by rw [hbuild, hresult]; rfl, by rw [hbuild', herror']; rfl⟩

end

/--
Lookups do not depend on what has been done to a router before.  The first part
is about routers that build and the second about those that do not, which
report the same route for reasons that are the same up to the numbers of tags,
or else the same error in an expression that is beyond all bounds.
-/
theorem lookups_do_not_depend_on_history (hr : r.Reachable) (hs : s.Reachable)
    (hbase : r.basePath = s.basePath) (hroutes : List.Forall₂ Route.Alike r.routes s.routes)
    (hbracket : ∀ route ∈ r.routes, '[' ∉ route.uri.toList) :
    (r.Builds ∧ s.Builds ∧
      (∀ method path, (r.find method path).result = (s.find method path).result) ∧
      ∀ name params, (r.url name params).result = (s.url name params).result) ∨
    ∃ error error', error.Resembles error' ∧
      r.build.result = .error (.table error) ∧ s.build.result = .error (.table error') ∧
      (∀ method path, (r.find method path).result = .error (.table error) ∧
        (s.find method path).result = .error (.table error')) ∧
      ∀ name params, (r.url name params).result = .error (.table error) ∧
        (s.url name params).result = .error (.table error') := by
  by_cases hbuilds : r.Builds
  · exact .inl ⟨hbuilds, (builds_alike hr hs hroutes hbracket).mp hbuilds,
      find_alike hr hs hroutes hbracket hbase hbuilds,
      url_alike hr hs hroutes hbracket hbase hbuilds⟩
  · obtain ⟨error, error', hsame, hfails, hfails'⟩ :=
      exists_error_alike hr hs hroutes hbracket hbuilds
    exact .inr ⟨error, error', hsame, hfails, hfails',
      fun method path => ⟨find_of_error hfails method path, find_of_error hfails' method path⟩,
      fun name params => ⟨url_of_error hfails name params, url_of_error hfails' name params⟩⟩

/-! ## A corrected router -/

theorem forall₂_alike_of_map {routes others : List Route}
    (h : routes.map (fun route => (route.methods, route.uri, route.name, route.constraints)) =
      others.map fun route => (route.methods, route.uri, route.name, route.constraints)) :
    List.Forall₂ Route.Alike routes others := by
  rw [← List.forall₂_eq_eq_eq, List.forall₂_map_left_iff, List.forall₂_map_right_iff] at h
  refine h.imp fun route other heq => ?_
  simp only [Prod.mk.injEq] at heq
  exact ⟨heq.1, heq.2.1, heq.2.2.1, fun param => by rw [heq.2.2.2]⟩

/-- A failed build, its correction and two changes of the base path leave no trace but the next tag. -/
theorem lookups_do_not_depend_on_history_corrected :
    let r := fresh.after [.map ["get"] "posts/{id}" (.value .null),
      .adjust 0 (.constraint (.single (some "id") (some "[0-9"))), .build,
      .adjust 0 (.constraint (.single (some "id") (some "[0-9]+"))), .setBasePath "blog",
      .find "GET" "/blog/posts/1/", .setBasePath "api", .adjust 0 (.name (some "post")), .build]
    let s := fresh.after [.setBasePath "/api/", .map ["GET"] "/posts/{id}/" (.value .null),
      .adjust 0 (.constraint (.single (some "id") (some "[0-9]+"))), .adjust 0 (.name (some "post"))]
    r.compiler.next = 4 ∧ s.compiler.next = 1 ∧
      (∀ method path, (r.find method path).result = (s.find method path).result) ∧
      ∀ name params, (r.url name params).result = (s.url name params).result := by
  intro r s
  have hroutes : List.Forall₂ Route.Alike r.routes s.routes :=
    forall₂_alike_of_map (by decide +kernel)
  have hbracket : ∀ route ∈ r.routes, '[' ∉ route.uri.toList := by decide +kernel
  have hbuilds : r.Builds := builds_of_toBool (by decide +kernel)
  refine ⟨by decide +kernel, by decide +kernel, ?_⟩
  rcases lookups_do_not_depend_on_history ((Reachable.new make_fresh).after _)
    ((Reachable.new make_fresh).after _) (by decide +kernel) hroutes hbracket with
    ⟨-, -, hfind, hurl⟩ | ⟨error, -, -, hfails, -⟩
  · exact ⟨hfind, hurl⟩
  · obtain ⟨t, ht⟩ := hbuilds
    exact absurd (ht.symm.trans hfails) (by simp)

/-- A repetition beyond all bounds is reported for no route, however often it is compiled. -/
theorem huge_repetition_stays_unreported :
    let r := fresh.after [.map ["GET"] "posts/{id}" (.value .null),
      .adjust 0 (.constraint (.single (some "id") (some "[0-9]{4294967295}")))]
    let s := r.build.router
    r.Reachable ∧ s.Reachable ∧ r.basePath = s.basePath ∧
      List.Forall₂ Route.Alike r.routes s.routes ∧ (∀ route ∈ r.routes, '[' ∉ route.uri.toList) ∧
      ¬ r.Builds ∧
      ¬ ∃ uri cause cause', r.build.result = .error (.table (.invalidRoute uri cause)) ∧
        s.build.result = .error (.table (.invalidRoute uri cause')) := by
  intro r s
  have hr : r.Reachable := (Reachable.new make_fresh).after _
  have hfails : r.build.result.map (fun _ => ()) =
      .error (.table (.engine (.regex .boundTooLarge))) := by decide +kernel
  refine ⟨hr, hr.after [.build], by decide +kernel, forall₂_alike_of_map (by decide +kernel), ?_,
    ?_, ?_⟩
  · exact List.forall_mem_singleton.mpr (by decide +kernel)
  · rintro ⟨t, ht⟩
    simp [ht, Except.map] at hfails
  · rintro ⟨uri, cause, cause', hinvalid, -⟩
    simp [hinvalid, Except.map] at hfails

end Router

end HttpRouting
