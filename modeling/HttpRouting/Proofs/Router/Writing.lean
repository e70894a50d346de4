import HttpRouting.Proofs.Engine.Writing
import HttpRouting.Proofs.Router.Inversion
import HttpRouting.Proofs.Router.Lookup

/-!
# What a URL is

The values are checked against the constraints first, in the order in which
they are given, and the first one that fails is the one that is reported.
Then the template is filled, which fails without naming a value.  A match of
which a group ends before it begins is an error of its own, whatever the
expression would say of the value.
-/

namespace HttpRouting

open Engine (Slot givenText? givenValue? matchesType)
open Regex.Expression (Accepts Crosses NeedsTrail)
open Template (scan tokens)
open Template.Compiler (anySegment typeOf)

/-! ## What a route asks of the values -/

namespace Route

/-- A constraint applies to a value: it is not empty, and the value is not null. -/
structure Checks (route : Route) (entry : String × Value) (regex : String) : Prop where
  constraint : route.constraints.find? entry.1 = some regex
  nonempty : regex ≠ ""
  given : entry.2.isNull = false

def Permits (route : Route) (entry : String × Value) : Prop :=
  ∀ regex, route.Checks entry regex → Accepts regex entry.2.plain.toList

/-- The values that a template needs: one for each required token, and segments where no constraint is. -/
structure IsSupplied (route : Route) (params : Pairs Value) : Prop where
  required : ∀ token ∈ tokens (scan route.uri.toList),
    givenText? params token.name = none → token.optional = true
  segment : ∀ token ∈ tokens (scan route.uri.toList), ∀ text,
    (route.constraints.find? token.name).getD "" = "" → givenText? params token.name = some text →
      text ≠ [] ∧ '/' ∉ text

variable {route : Route} {params : Pairs Value}

theorem Checks.matchesType {entry : String × Value} {regex : String} (h : route.Checks entry regex)
    (hpermits : route.Permits entry) : matchesType regex entry.2.plain = .ok true :=
  Engine.matchesType_of_accepts (hpermits regex h)

theorem checkConstraints_of_permits (name : String) {before : List (String × Value)}
    (h : ∀ entry ∈ before, route.Permits entry) (rest : List (String × Value)) :
    Router.checkConstraints route.constraints name (before ++ rest) =
      Router.checkConstraints route.constraints name rest :=
  Router.checkConstraints_append name (fun entry hentry regex hregex hnonempty hgiven =>
    Checks.matchesType ⟨hregex, by simpa using hnonempty, hgiven⟩ (h entry hentry)) rest

theorem checkConstraints_of_checks (name : String) {entry : String × Value} {regex : String}
    (h : route.Checks entry regex) (rest : List (String × Value)) :
    Router.checkConstraints route.constraints name (entry :: rest) =
      ((matchesType regex entry.2.plain).mapError .engine).bind fun passes =>
        if passes then Router.checkConstraints route.constraints name rest
        else .error (.failedConstraint name entry.1 entry.2.plain regex) := by
  have happlies : (route.constraints.find? entry.1).filter
      (fun regex => !regex.isEmpty && !entry.2.isNull) = some regex := by
    rw [h.constraint]
    simp [h.nonempty, h.given]
  rw [Router.checkConstraints, happlies]
  rfl

theorem isSupplied_iff : route.IsSupplied params ↔
    ∀ token ∈ tokens (scan route.uri.toList),
      match givenText? params token.name with
      | none => token.optional = true
      | some text => (route.constraints.find? token.name).getD "" = "" → text ≠ [] ∧ '/' ∉ text := by
  constructor
  · intro h token htoken
    cases htext : givenText? params token.name with
    | none => exact h.required token htoken htext
    | some text => exact fun hfree => h.segment token htoken text hfree htext
  · intro h
    refine ⟨fun token htoken hnone => ?_, fun token htoken text hfree htext => ?_⟩
    · simpa only [hnone] using h token htoken
    · have hsegment := h token htoken
      rw [htext] at hsegment
      exact hsegment hfree

theorem typeOf_eq (route : Route) (token : Template.Token) :
    ((route.constraints.find? token.name).getD "" = "" ∧
        typeOf route.constraints token = anySegment) ∨
      route.constraints.find? token.name = some (typeOf route.constraints token) ∧
        typeOf route.constraints token ≠ "" := by
  rw [route.typeOf_token]
  cases hregex : route.constraints.find? token.name with
  | none => exact .inl ⟨rfl, rfl⟩
  | some regex =>
      by_cases hempty : regex = ""
      · subst hempty
        exact .inl ⟨rfl, rfl⟩
      · rw [Option.filter_some, if_pos (by simpa using hempty)]
        exact .inr ⟨rfl, hempty⟩

theorem regex_of_mem_canonicalSlots {lead : Option Char} {param regex : String} {optional : Bool}
    (h : .hole lead param regex optional ∈ route.canonicalSlots) :
    regex = anySegment ∨ route.constraints.find? param = some regex ∧ regex ≠ "" := by
  obtain ⟨token, -, rfl, rfl, -⟩ := Template.exists_token_of_hole h
  exact (route.typeOf_eq token).imp_left And.right

section

variable (hpermits : ∀ entry ∈ params.entries, route.Permits entry)

include hpermits

theorem accepts_of_constraint {param regex : String} {value : Value}
    (hregex : route.constraints.find? param = some regex) (hnonempty : regex ≠ "")
    (hvalue : givenValue? params param = some value) : Accepts regex value.plain.toList := by
  obtain ⟨hfind, hgiven⟩ := Option.filter_eq_some_iff.mp hvalue
  exact hpermits (param, value) (Pairs.mem_of_find? hfind) regex
    ⟨hregex, hnonempty, by simpa using hgiven⟩

variable (hmark : ¬ ['}', '?'] <:+: route.uri.toList)

include hmark

theorem takes_iff_isSupplied :
    (∀ slot ∈ route.canonicalSlots, slot.Takes params) ↔ route.IsSupplied params := by
  rw [route.forall_mem_canonicalSlots trivial, slots, Template.absorbMarks_scan hmark,
    Template.forall_mem_slots_iff (fun _ => trivial) fun _ _ _ _ => Iff.rfl, isSupplied_iff]
  refine forall₂_congr fun token htoken => ?_
  rw [givenText?]
  cases hvalue : givenValue? params token.name with
  | none => rfl
  | some value =>
      rcases route.typeOf_eq token with ⟨hfree, htype⟩ | ⟨hregex, hnonempty⟩
      · simp only [htype, hfree, Option.map_some, Engine.accepts_iff Engine.isPlainText_anySegment,
          Slot.mem_languageOf_anySegment, forall_const]
      · have haccepts := accepts_of_constraint hpermits hregex hnonempty hvalue
        simp [haccepts, hregex, hnonempty]

theorem answers_canonicalSlots : ∀ slot ∈ route.canonicalSlots, slot.Answers params := by
  rw [route.forall_mem_canonicalSlots trivial, slots, Template.absorbMarks_scan hmark,
    Template.forall_mem_slots_iff (fun _ => trivial) fun _ _ _ _ => Iff.rfl]
  intro token htoken value hvalue
  rcases route.typeOf_eq token with ⟨-, htype⟩ | ⟨hregex, hnonempty⟩
  · rw [htype]
    exact Engine.accepts_or_refuses Engine.isPlainText_anySegment value.plain
  · exact .inl (accepts_of_constraint hpermits hregex hnonempty hvalue)

theorem written_of_isSupplied (hsupplied : route.IsSupplied params) (basePath name : String) :
    route.written basePath name params = .ok (basePath ++ .ofList
      (Template.withFinalSlash route.uri.toList
        (Template.fill (givenText? params) (scan route.uri.toList)))) := by
  have htakes := (takes_iff_isSupplied hpermits hmark).mpr hsupplied
  rw [written, Slot.write_of_takes name htakes, route.fill_canonicalSlots, slots,
    Template.absorbMarks_scan hmark, Template.fill_slots]

theorem written_of_not_isSupplied (hsupplied : ¬ route.IsSupplied params) (basePath name : String) :
    route.written basePath name params = .error (.noNamedRoute name) := by
  obtain ⟨error, herror⟩ := Slot.write_of_not_takes name (answers_canonicalSlots hpermits hmark)
    (mt (takes_iff_isSupplied hpermits hmark).mp hsupplied)
  rw [written, herror]

end

end Route

namespace Router

/--
What a URL is, in the order in which it is decided.  Without a route of the
name there is none.  Otherwise the first value that a constraint does not
accept is reported, whatever else is wrong, unless matching it fails, which
takes a possessive repetition.  If all values pass, the URL is the filled
template below the base path, with a slash behind it; it is missing if a
required token has no value, or a token without a constraint has one that is
no segment.
-/
theorem url_is_filled_template {r : Router} (hreachable : r.Reachable) (hbuilds : r.Builds)
    (hbracket : ∀ route ∈ r.routes, '[' ∉ route.uri.toList)
    (hmark : ∀ route ∈ r.routes, ¬ ['}', '?'] <:+: route.uri.toList)
    (hregexes : ∀ route ∈ r.routes, ∀ entry ∈ route.constraints.entries, entry.2 ≠ "" →
      ∃ e, Regex.Expression.read entry.2.toList = .ok e)
    (name : String) (params : Pairs Value) :
    ((∀ route ∈ r.routes, route.name ≠ some name) →
      (r.url name params).result = .error (.noNamedRoute name)) ∧
    ∀ place route, r.LastNamed place name route →
      (∀ before entry after regex, params.entries = before ++ entry :: after →
        (∀ other ∈ before, route.Permits other) → route.Checks entry regex →
        ¬ Accepts regex entry.2.plain.toList →
          (¬ Crosses regex entry.2.plain.toList →
            (r.url name params).result =
              .error (.failedConstraint name entry.1 entry.2.plain regex)) ∧
          (Crosses regex entry.2.plain.toList → NeedsTrail regex ∧
            (r.url name params).result = .error (.engine (.regex .crossedGroup)))) ∧
      ((∀ entry ∈ params.entries, route.Permits entry) →
        (route.IsSupplied params →
          (r.url name params).result = .ok (r.basePath ++ .ofList
            (Template.withFinalSlash route.uri.toList
              (Template.fill (givenText? params) (scan route.uri.toList))))) ∧
        (¬ route.IsSupplied params →
          (r.url name params).result = .error (.noNamedRoute name))) := by
  have hurl := hreachable.url_eq hbracket hbuilds name params
  refine ⟨fun hunnamed => ?_, fun place route hlast => ?_⟩
  · have hnone : r.named? name = none :=
      List.find?_eq_none.mpr fun route hroute => by simpa using hunnamed route (List.mem_reverse.mp hroute)
    rw [hurl, hnone]
  have hroute := List.mem_of_getElem? hlast.stands
  rw [hlast.named?_eq] at hurl
  refine ⟨fun before entry after regex hsplit hbefore hchecks hrefuses => ?_, fun hpermits => ?_⟩
  · have hfirst := Route.checkConstraints_of_checks name hchecks after
    simp only [hsplit, Route.checkConstraints_of_permits name hbefore, hfirst] at hurl
    refine ⟨fun hcrosses => ?_, fun hcrosses => ⟨hcrosses.needsTrail, ?_⟩⟩
    · have hread := hregexes route hroute _ (Pairs.mem_of_find? hchecks.constraint) hchecks.nonempty
      rw [hurl, Engine.matchesType_of_refuses hread hrefuses hcrosses]
      rfl
    · rw [hurl, Engine.matchesType_of_crosses hcrosses]
      rfl
  · have hpass := Route.checkConstraints_of_permits name hpermits []
    simp only [List.append_nil, checkConstraints] at hpass
    simp only [hpass] at hurl
    rw [hurl]
    have hunmarked := hmark route hroute
    exact ⟨fun h => Route.written_of_isSupplied hpermits hunmarked h r.basePath name,
      fun h => Route.written_of_not_isSupplied hpermits hunmarked h r.basePath name⟩

theorem url_is_filled_template_posts :
    let r := single "posts/{id}.{form?}" "posts" "id" "[0-9]+"
    (r.url "pages" ∅).result = .error (.noNamedRoute "pages") ∧
      (r.url "posts" ⟨[("form", .text ""), ("id", .text "x1")]⟩).result =
        .error (.failedConstraint "posts" "id" "x1" "[0-9]+") ∧
      (r.url "posts" ⟨[("id", .int 12), ("form", .text "")]⟩).result =
        .error (.noNamedRoute "posts") ∧
      (r.url "posts" ⟨[("id", .int 12), ("form", .null)]⟩).result = .ok "/posts/12/" := by
  intro r
  let route := singleRoute "posts/{id}.{form?}" "posts" "id" "[0-9]+"
  have hplain : Regex.Expression.IsPlainText "[0-9]+" := by decide +kernel
  obtain ⟨e, hread, -⟩ := Slot.exists_plain_expression hplain
  have hspec := url_is_filled_template (r := r) (reachable_single ..)
    (builds_of_toBool (by decide +kernel)) (List.forall_mem_singleton.mpr (by decide))
    (List.forall_mem_singleton.mpr (by decide))
    (List.forall_mem_singleton.mpr (List.forall_mem_singleton.mpr fun _ => ⟨e, hread⟩))
  have hform (value : Value) : route.Permits ("form", value) := fun regex h =>
    absurd h.constraint (by simp [show route.constraints.find? "form" = none from rfl])
  have hid : route.Permits ("id", .int 12) := fun regex h => by
    obtain rfl : "[0-9]+" = regex := Option.some.inj h.constraint
    exact (Engine.accepts_or_refuses hplain "12").resolve_right (by decide +kernel)
  have hpermits (value : Value) : ∀ entry ∈ [("id", .int 12), ("form", value)], route.Permits entry :=
    List.forall_mem_cons.mpr ⟨hid, List.forall_mem_singleton.mpr (hform value)⟩
  have htokens : tokens (scan route.uri.toList) = [⟨"id", false⟩, ⟨"form", true⟩] := by decide +kernel
  refine ⟨(hspec "pages" ∅).1 (List.forall_mem_singleton.mpr (by decide)), ?_, ?_, ?_⟩
  · refine (((hspec "posts" _).2 0 route (lastNamed_single ..)).1 [("form", .text "")]
      ("id", .text "x1") [] "[0-9]+" rfl (List.forall_mem_singleton.mpr (hform _))
      ⟨rfl, by decide, rfl⟩ fun h => ?_).1 fun h => ?_
    · exact absurd (Engine.matchesType_of_accepts h) (by decide +kernel)
    · exact absurd (Engine.matchesType_of_crosses h) (by decide +kernel)
  · refine (((hspec "posts" _).2 0 route (lastNamed_single ..)).2 (hpermits _)).2 fun h => ?_
    exact (h.segment ⟨"form", true⟩ (by rw [htokens]; simp) [] rfl rfl).1 rfl
  · have hurl := (((hspec "posts" _).2 0 route (lastNamed_single ..)).2 (hpermits .null)).1 ⟨?_, ?_⟩
    · exact hurl.trans (by decide +kernel)
    · rw [htokens]
      decide +kernel
    · rw [htokens]
      intro token htoken text hfree htext
      rcases List.mem_pair.mp htoken with rfl | rfl
      · exact absurd hfree (by decide)
      · exact nomatch (show none = some text from htext)

/-- A possessive loop matches the value, but the span of its group is crossed. -/
theorem url_fails_on_crossed_group :
    let r := single "posts/{id}" "posts" "id" "(?:(a)|b*)++"
    r.Reachable ∧ r.Builds ∧ (∀ route ∈ r.routes, '[' ∉ route.uri.toList) ∧
      (∀ route ∈ r.routes, ¬ ['}', '?'] <:+: route.uri.toList) ∧
      (∀ route ∈ r.routes, ∀ entry ∈ route.constraints.entries,
        (Regex.Expression.read entry.2.toList).toBool = true) ∧
      (r.url "posts" ⟨[("id", .text "ab")]⟩).result = .error (.engine (.regex .crossedGroup)) := by
  intro r
  exact ⟨reachable_single .., builds_of_toBool (by decide +kernel),
    List.forall_mem_singleton.mpr (by decide), List.forall_mem_singleton.mpr (by decide),
    List.forall_mem_singleton.mpr (List.forall_mem_singleton.mpr (by decide +kernel)),
    by decide +kernel⟩

end Router

end HttpRouting
