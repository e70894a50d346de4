import HttpRouting.Proofs.Router.Writing

/-!
# How URLs fail

A URL is missing for want of a route or of a fitting value, or a constraint
refuses a value.  But an expression that is read as part of a pattern may not
be read alone, and a match may have a group that ends before it begins.  Then
no constraint refuses the value, and no route is missing either: asking fails.
-/

namespace HttpRouting

open Engine (Slot givenValue? matchesType)
open Regex.Expression (Accepts Crosses Fails NeedsTrail)
open Template.Compiler (anySegment)

/-! ## Constraints that can not be checked -/

namespace Route

/-- The first value that the constraint on it does not accept makes this constraint fail. -/
inductive Fails (route : Route) (cause : Regex.Error) : List (String × Value) → Prop
  | here {entry : String × Value} {regex : String} {rest : List (String × Value)} :
      route.Checks entry regex → Regex.Expression.Fails regex entry.2.plain.toList cause →
      Fails route cause (entry :: rest)
  | later {entry : String × Value} {rest : List (String × Value)} : route.Permits entry →
      Fails route cause rest → Fails route cause (entry :: rest)

variable {route : Route} {cause : Regex.Error} {entries : List (String × Value)}

theorem Fails.exists_constraint (h : route.Fails cause entries) :
    ∃ entry ∈ entries, ∃ regex, route.Checks entry regex ∧
      Regex.Expression.Fails regex entry.2.plain.toList cause := by
  induction h with
  | here hchecks hfails => exact ⟨_, List.mem_cons_self, _, hchecks, hfails⟩
  | later _ _ ih =>
      obtain ⟨entry, hentry, hfails⟩ := ih
      exact ⟨entry, List.mem_cons_of_mem _ hentry, hfails⟩

theorem checkConstraints_of_fails (name : String) (h : route.Fails cause entries) :
    Router.checkConstraints route.constraints name entries = .error (.engine (.regex cause)) := by
  induction h with
  | here hchecks hfails =>
      rw [checkConstraints_of_checks name hchecks, Engine.matchesType_of_fails hfails]
      rfl
  | @later entry rest hpermits _ ih =>
      rw [← ih]
      exact checkConstraints_of_permits name (List.forall_mem_singleton.mpr hpermits) rest

theorem checkConstraints_of_not_permits (name : String) {entry : String × Value}
    (h : ¬ route.Permits entry) (rest : List (String × Value)) :
    ∃ regex, route.Checks entry regex ∧
      (Router.checkConstraints route.constraints name (entry :: rest) =
          .error (.failedConstraint name entry.1 entry.2.plain regex) ∨
        ∃ cause, Regex.Expression.Fails regex entry.2.plain.toList cause ∧
          Router.checkConstraints route.constraints name (entry :: rest) =
            .error (.engine (.regex cause))) := by
  obtain ⟨regex, hregex⟩ := not_forall.mp h
  obtain ⟨hchecks, hrefuses⟩ := Classical.not_imp.mp hregex
  refine ⟨regex, hchecks, ?_⟩
  rw [checkConstraints_of_checks name hchecks]
  rcases Engine.matchesType_cases regex entry.2.plain with haccepts | hfalse | ⟨cause, hfails⟩
  · exact absurd haccepts hrefuses
  · rw [hfalse]
    exact .inl rfl
  · rw [Engine.matchesType_of_fails hfails]
    exact .inr ⟨cause, hfails, rfl⟩

theorem checkConstraints_cons_of_permits (name : String) {entry : String × Value}
    (h : route.Permits entry) (rest : List (String × Value)) :
    Router.checkConstraints route.constraints name (entry :: rest) =
      Router.checkConstraints route.constraints name rest :=
  checkConstraints_of_permits name (List.forall_mem_singleton.mpr h) rest

theorem fails_of_checkConstraints {name : String} {error : RouterError}
    (h : Router.checkConstraints route.constraints name entries = .error error) :
    (∃ entry ∈ entries, ∃ regex, error = .failedConstraint name entry.1 entry.2.plain regex) ∨
      ∃ cause, error = .engine (.regex cause) ∧ route.Fails cause entries := by
  induction entries with
  | nil => simp [Router.checkConstraints] at h
  | cons entry rest ih =>
      by_cases hpermits : route.Permits entry
      · rw [checkConstraints_cons_of_permits name hpermits] at h
        rcases ih h with ⟨other, hother, herror⟩ | ⟨cause, hcause, hfails⟩
        · exact .inl ⟨other, List.mem_cons_of_mem _ hother, herror⟩
        · exact .inr ⟨cause, hcause, .later hpermits hfails⟩
      · obtain ⟨regex, hchecks, hfalse | ⟨cause, hfails, herror⟩⟩ :=
          checkConstraints_of_not_permits name hpermits rest
        · rw [hfalse] at h
          exact .inl ⟨entry, List.mem_cons_self, regex, (Except.error.inj h).symm⟩
        · rw [herror] at h
          exact .inr ⟨cause, (Except.error.inj h).symm, .here hchecks hfails⟩

theorem permits_of_checkConstraints {name : String}
    (h : Router.checkConstraints route.constraints name entries = .ok ()) :
    ∀ entry ∈ entries, route.Permits entry := by
  induction entries with
  | nil => simp
  | cons entry rest ih =>
      by_cases hpermits : route.Permits entry
      · rw [checkConstraints_cons_of_permits name hpermits] at h
        exact List.forall_mem_cons.mpr ⟨hpermits, ih h⟩
      · obtain ⟨regex, -, hfalse | ⟨cause, -, herror⟩⟩ :=
          checkConstraints_of_not_permits name hpermits rest
        · simp [hfalse] at h
        · simp [herror] at h

theorem not_fails_canonicalSlots {params : Pairs Value}
    (hpermits : ∀ entry ∈ params.entries, route.Permits entry) :
    ¬ Slot.Fails params cause route.canonicalSlots := by
  intro hfails
  obtain ⟨lead, param, regex, optional, value, hmem, hvalue, hfails⟩ := hfails.exists_hole
  rcases regex_of_mem_canonicalSlots hmem with rfl | ⟨hregex, hnonempty⟩
  · exact Engine.not_fails_of_isPlain Engine.isPlainText_anySegment hfails
  · exact Engine.not_fails_of_accepts (accepts_of_constraint hpermits hregex hnonempty hvalue) hfails

end Route

/-! ## URLs -/

def Table.namedSlots? (t : Table) (name : String) : Option (List Slot) :=
  (t.engine.named.find? name).bind fun entry =>
    Slot.resolve? t.engine.types (Pattern.scan entry.pattern.toList)

namespace Router

variable {r : Router} {t : Table}

theorem IsConsistent.exists_namedSlots (h : r.IsConsistent) (hbuild : r.build.result = .ok t)
    {name : String} {route : Route} (hnamed : r.named? name = some route) :
    ∃ slots, t.namedSlots? name = some slots ∧
      ('[' ∉ route.uri.toList → slots = route.canonicalSlots) := by
  obtain ⟨place, hlast⟩ := exists_lastNamed hnamed
  obtain ⟨earlier, first, last, f, hserves⟩ := h.exists_serves hbuild hlast.stands
  obtain ⟨slots, hslots, -⟩ := Engine.exists_slots_of_compileAfresh
    (hserves.stands.sound.registered f.canonical hserves.canonical_mem)
  refine ⟨slots, ?_, fun hbracket => ?_⟩
  · rw [Table.namedSlots?, hserves.named name hlast]
    exact Engine.resolve?_of_extends hserves.stands.types hslots
  · have hroute := List.mem_of_getElem? hlast.stands
    have hcanonical := hserves.resolve?_canonical ⟨h.trimmed route hroute, hbracket⟩
    exact Option.some.inj (hslots.symm.trans hcanonical)

theorem generate_of_namedSlots {name : String} {slots : List Slot}
    (hslots : t.namedSlots? name = some slots) (params : Pairs Value) :
    generate t name params = match Slot.write name params slots with
      | .ok text => .ok (t.engine.basePath ++ .ofList text)
      | .error (.pattern _) => .error (.noNamedRoute name)
      | .error error => .error (.engine error) := by
  obtain ⟨entry, hentry, hresolve⟩ := Option.bind_eq_some_iff.mp hslots
  simp only [generate, Table.generate, Engine.generate, hentry,
    Engine.fillPieces_of_resolve? hresolve]
  cases Slot.write name params slots with
  | error error => cases error <;> rfl
  | ok text => rfl

theorem url_of_named (hbuild : r.build.result = .ok t) {name : String} {route : Route}
    (hnamed : r.named? name = some route) {slots : List Slot}
    (hslots : t.namedSlots? name = some slots) (params : Pairs Value) :
    (r.url name params).result =
      (checkConstraints route.constraints name params.entries).bind fun _ =>
        match Slot.write name params slots with
        | .ok text => .ok (t.engine.basePath ++ .ofList text)
        | .error (.pattern _) => .error (.noNamedRoute name)
        | .error error => .error (.engine error) := by
  rw [url_of_build hbuild, hnamed, Option.map_some, Option.getD_some,
    generate_of_namedSlots hslots]

/-- The constraint that fails on a value when a URL is asked for. -/
def UrlFails (r : Router) (t : Table) (name : String) (params : Pairs Value)
    (cause : Regex.Error) : Prop :=
  ∃ route, r.named? name = some route ∧
    (route.Fails cause params.entries ∨
      '[' ∈ route.uri.toList ∧ (∀ entry ∈ params.entries, route.Permits entry) ∧
        ∃ slots, t.namedSlots? name = some slots ∧ Slot.Fails params cause slots)

theorem url_of_urlFails (hbuild : r.build.result = .ok t) (h : r.IsConsistent) {name : String}
    {params : Pairs Value} {cause : Regex.Error} (hfails : r.UrlFails t name params cause) :
    (r.url name params).result = .error (.engine (.regex cause)) := by
  obtain ⟨route, hnamed, hconstraint | ⟨-, hpermits, slots, hslots, hwrite⟩⟩ := hfails
  · obtain ⟨slots, hslots, -⟩ := h.exists_namedSlots hbuild hnamed
    rw [url_of_named hbuild hnamed hslots, Route.checkConstraints_of_fails name hconstraint]
    rfl
  · have hpass := Route.checkConstraints_of_permits name hpermits []
    rw [List.append_nil, checkConstraints] at hpass
    rw [url_of_named hbuild hnamed hslots, hpass, Slot.write_of_fails name hwrite]
    rfl

theorem url_cases (hbuild : r.build.result = .ok t) (h : r.IsConsistent) (name : String)
    (params : Pairs Value) :
    (∃ text, (r.url name params).result = .ok text) ∨
      (r.url name params).result = .error (.noNamedRoute name) ∨
      (∃ entry ∈ params.entries, ∃ regex, (r.url name params).result =
        .error (.failedConstraint name entry.1 entry.2.plain regex)) ∨
      ∃ cause, r.UrlFails t name params cause := by
  cases hnamed : r.named? name with
  | none =>
      refine .inr (.inl ?_)
      rw [url_of_build hbuild, hnamed, Option.map_none, Option.getD_none, checkConstraints_empty]
      simp only [Except.bind, generate, Table.generate, Engine.generate,
        h.find?_named_of_none hbuild hnamed]
  | some route =>
      obtain ⟨slots, hslots, hcanonical⟩ := h.exists_namedSlots hbuild hnamed
      have hurl := url_of_named hbuild hnamed hslots params
      cases hcheck : checkConstraints route.constraints name params.entries with
      | error error =>
          rw [hcheck] at hurl
          rcases Route.fails_of_checkConstraints hcheck with
            ⟨entry, hentry, regex, rfl⟩ | ⟨cause, rfl, hfails⟩
          · exact .inr (.inr (.inl ⟨entry, hentry, regex, hurl⟩))
          · exact .inr (.inr (.inr ⟨cause, route, hnamed, .inl hfails⟩))
      | ok =>
          rw [hcheck] at hurl
          cases hwrite : Slot.write name params slots with
          | ok text =>
              rw [hwrite] at hurl
              exact .inl ⟨_, hurl⟩
          | error error =>
              rw [hwrite] at hurl
              rcases Slot.fails_of_write hwrite with ⟨e, rfl⟩ | ⟨cause, rfl, hfails⟩
              · exact .inr (.inl hurl)
              · have hpermits := Route.permits_of_checkConstraints hcheck
                have hbracket : '[' ∈ route.uri.toList := by
                  by_contra hnot
                  rw [hcanonical hnot] at hfails
                  exact Route.not_fails_canonicalSlots hpermits hfails
                exact .inr (.inr (.inr
                  ⟨cause, route, hnamed, .inr ⟨hbracket, hpermits, slots, hslots, hfails⟩⟩))

theorem UrlFails.exists_constraint (hbuild : r.build.result = .ok t) (h : r.IsConsistent)
    {name : String} {params : Pairs Value} {cause : Regex.Error}
    (hfails : r.UrlFails t name params cause) :
    ∃ route ∈ r.routes, ∃ entry ∈ route.constraints.entries, ∃ value : Value,
      Fails entry.2 value.plain.toList cause := by
  obtain ⟨route, hnamed, hconstraint | ⟨-, -, slots, hslots, hfails⟩⟩ := hfails
  · obtain ⟨entry, -, regex, hchecks, hfails⟩ := hconstraint.exists_constraint
    obtain ⟨place, hlast⟩ := exists_lastNamed hnamed
    exact ⟨route, List.mem_of_getElem? hlast.stands, _, Pairs.mem_of_find? hchecks.constraint,
      entry.2, hfails⟩
  · obtain ⟨entry, -, hresolve⟩ := Option.bind_eq_some_iff.mp hslots
    obtain ⟨lead, param, regex, optional, value, hmem, -, hfails⟩ := hfails.exists_hole
    have hregex : regex ∈ Slot.regexes slots := List.mem_filterMap.mpr ⟨_, hmem, rfl⟩
    rcases Engine.forall_regexes_of_resolve? (fun _ _ => h.regex_of_type hbuild) hresolve regex hregex
      with ⟨type, htype⟩ | ⟨other, hother, constraint, hconstraint, rfl⟩
    · exact absurd hfails (Engine.not_fails_of_isPlain (Engine.arePlain_defaultTypes type regex htype))
    · exact ⟨other, hother, constraint, hconstraint, value, hfails⟩

/--
A URL is written, or there is none for the name, or a constraint refuses a
value; or a constraint fails, which is an error of the expression.  That is so
just if the first value which its constraint does not accept makes the
constraint fail, or if a block in the text of the template does that with a
type of the table.  The expression is the constraint of some route, and it can
not be read alone, or it has a possessive repetition of more than one class.
-/
theorem url_fails_on_constraints_alone (hreachable : r.Reachable) (hbuild : r.build.result = .ok t)
    (name : String) (params : Pairs Value) :
    ((∃ text, (r.url name params).result = .ok text) ∨
      (r.url name params).result = .error (.noNamedRoute name) ∨
      (∃ entry ∈ params.entries, ∃ regex, (r.url name params).result =
        .error (.failedConstraint name entry.1 entry.2.plain regex)) ∨
      ∃ cause, (r.url name params).result = .error (.engine (.regex cause))) ∧
    ∀ cause,
      ((r.url name params).result = .error (.engine (.regex cause)) ↔
        r.UrlFails t name params cause) ∧
      ((r.url name params).result = .error (.engine (.regex cause)) →
        ∃ route ∈ r.routes, ∃ entry ∈ route.constraints.entries,
          Regex.Expression.read entry.2.toList = .error cause ∨
            cause = .crossedGroup ∧ NeedsTrail entry.2) := by
  have h := hreachable.isConsistent
  have hcases := url_cases hbuild h name params
  have hiff (cause : Regex.Error) : (r.url name params).result = .error (.engine (.regex cause)) ↔
      r.UrlFails t name params cause := by
    refine ⟨fun hresult => ?_, url_of_urlFails hbuild h⟩
    rw [hresult] at hcases
    obtain ⟨text, htext⟩ | hnone | ⟨entry, -, regex, hrefused⟩ | ⟨other, hother⟩ := hcases
    · simp at htext
    · simp at hnone
    · simp at hrefused
    · have hsame := hresult.symm.trans (url_of_urlFails hbuild h hother)
      rw [Except.error.injEq, RouterError.engine.injEq, EngineError.regex.injEq] at hsame
      rwa [hsame]
  refine ⟨hcases.imp_right (Or.imp_right (Or.imp_right fun ⟨cause, hfails⟩ =>
    ⟨cause, url_of_urlFails hbuild h hfails⟩)), fun cause => ⟨hiff cause, fun hresult => ?_⟩⟩
  obtain ⟨route, hroute, entry, hentry, value, hfails⟩ :=
    ((hiff cause).mp hresult).exists_constraint hbuild h
  refine ⟨route, hroute, entry, hentry, ?_⟩
  cases hfails with
  | unreadable hread => exact .inl hread
  | crosses hcrosses => exact .inr ⟨rfl, hcrosses.needsTrail⟩

/-- A value is written, refused or missing, and with a possessive loop a match of it fails. -/
theorem url_fails_on_constraints_alone_possessive :
    let r := single "posts/{id}" "posts" "id" "(?:(a)|b*)++"
    ∃ t, r.build.result = .ok t ∧ (r.url "posts" ⟨[("id", .text "aa")]⟩).result = .ok "/posts/aa/" ∧
      (r.url "posts" ⟨[("id", .text "c")]⟩).result =
        .error (.failedConstraint "posts" "id" "c" "(?:(a)|b*)++") ∧
      (r.url "posts" ∅).result = .error (.noNamedRoute "posts") ∧
      r.UrlFails t "posts" ⟨[("id", .text "ab")]⟩ .crossedGroup ∧
      ∃ route ∈ r.routes, ∃ entry ∈ route.constraints.entries,
        Regex.Expression.read entry.2.toList = .error .crossedGroup ∨
          Regex.Error.crossedGroup = .crossedGroup ∧ NeedsTrail entry.2 := by
  intro r
  obtain ⟨t, hbuild⟩ : r.Builds := builds_of_toBool (by decide +kernel)
  have hfails : (r.url "posts" ⟨[("id", .text "ab")]⟩).result =
      .error (.engine (.regex .crossedGroup)) := by decide +kernel
  obtain ⟨hiff, hconstraint⟩ :=
    (url_fails_on_constraints_alone (reachable_single ..) hbuild "posts" _).2 .crossedGroup
  exact ⟨t, hbuild, by decide +kernel, by decide +kernel, by decide +kernel, hiff.mp hfails,
    hconstraint hfails⟩

/-- The parentheses of a pattern balance a constraint that is no expression alone. -/
theorem url_fails_on_unbalanced_constraint :
    let r := single "posts/{id}" "posts" "id" "a)|(b"
    r.Reachable ∧ r.Builds ∧ (r.url "posts" ⟨[("id", .text "a")]⟩).result =
      .error (.engine (.regex (.invalid .unbalanced (some ⟨1, none⟩)))) := by
  intro r
  exact ⟨reachable_single .., builds_of_toBool (by decide +kernel), by decide +kernel⟩

end Router

end HttpRouting
