import HttpRouting.Proofs.Engine.Failing
import HttpRouting.Proofs.Engine.Registration
import HttpRouting.Proofs.Router.Lookup
import HttpRouting.Proofs.Table.FinalSlash

/-!
# Captured parameters

What a lookup captures is known by the names of the tokens of the route that
was found.  Every name is read by key, and by attribute as well unless it is
reserved or the map has something else of that name.
-/

namespace HttpRouting

/-! ## Attributes -/

namespace Params

variable (p : Params) {name : String}

/-- A name that is not reserved, and that neither the map nor its kind has for something else. -/
structure IsFree (name : String) : Prop where
  notReserved : isReserved name = false
  notOperation : name ∉ operations
  notDescription : name ∉ descriptions
  notValues : name ≠ "_values"

theorem isReserved_of_mem (h : name ∈ reservedOperations ∨ name ∈ reservedNothing) :
    isReserved name = true := by
  have hall : (reservedOperations ++ reservedNothing).all isReserved = true := by decide +kernel
  exact List.all_eq_true.mp hall name (List.mem_append.mpr h)

theorem readAttribute_of_isFree (h : IsFree name) :
    p.readAttribute name = .ok (.value (p.item? name)) := by
  have hreserved := h.notReserved
  have hoperation : name ∉ reservedOperations := fun hmem => by
    simp [isReserved_of_mem (.inl hmem)] at hreserved
  have hnothing : name ∉ reservedNothing := fun hmem => by
    simp [isReserved_of_mem (.inr hmem)] at hreserved
  simp [readAttribute, h.notOperation, hoperation, h.notDescription, hnothing, h.notValues, hreserved]

theorem readAttribute_ne_value (h : isReserved name = true ∨ name = "_values")
    (value : Option String) : p.readAttribute name ≠ .ok (.value value) := by
  rw [readAttribute]
  repeat' split
  all_goals simp_all

theorem contains_eq_true : p.contains name = true ↔ ∃ value, p.item? name = some value :=
  Option.isSome_iff_exists

theorem contains_eq_false : p.contains name = false ↔ p.item? name = none :=
  Option.isSome_eq_false_iff.trans Option.isNone_iff_eq_none

end Params

/-! ## Names of tokens -/

open Engine (Entry Slot paramOf)
open Template (absorbMarks tokens scan)

theorem Template.names_absorbMarks (pieces : List Template.Piece) :
    (tokens (absorbMarks pieces)).map Template.Token.name = (tokens pieces).map Template.Token.name := by
  fun_induction absorbMarks pieces with
  | case1 => rfl
  | case2 t c rest hmark ih => simp [ih]
  | case3 t c rest hmark ih => simpa using ih
  | case4 piece rest hrest ih => cases piece <;> simp [ih]

theorem Engine.Slot.map_snd_groupsFrom (index : Nat) (slots : List Slot) :
    (Slot.groupsFrom index slots).map Prod.snd = Slot.params slots := by
  induction slots generalizing index with
  | nil => rfl
  | cons slot rest ih =>
      cases slot with
      | literal c => exact ih index
      | hole lead param regex optional => exact congrArg (param :: ·) (ih (index + 1))

namespace Engine

theorem exists_group_of_mapM_paramOf {params : Pairs String} {captures : List (String × List Char)}
    {bound : List (String × String)} (h : captures.mapM (paramOf params) = .ok bound)
    {entry : String × String} (hentry : entry ∈ bound) :
    ∃ group, params.find? group = some entry.1 := by
  induction captures generalizing bound with
  | nil =>
      obtain rfl : [] = bound := Except.ok.inj h
      simp at hentry
  | cons capture rest ih =>
      rw [List.mapM_cons] at h
      cases hparam : params.find? capture.1 with
      | none => simp [paramOf, hparam, bind, Except.bind] at h
      | some param =>
          cases hrest : rest.mapM (paramOf params) with
          | error error => simp [paramOf, hparam, hrest, bind, Except.bind] at h
          | ok others =>
              simp only [paramOf, hparam, hrest, bind, Except.bind] at h
              obtain rfl := Except.ok.inj h
              rcases List.mem_cons.mp hentry with rfl | hmem
              · exact ⟨capture.1, hparam⟩
              · exact ih hrest hmem

theorem Entry.mem_params_of_hit {α : Type} {entry : Entry α} {cursor : Regex.Cursor} {hit : Hit α}
    (h : entry.hit cursor = .ok hit) {pattern : String} {slots : List Slot}
    (hcompiled : Slot.compile pattern slots = .ok entry.compiled) {name : String}
    (hname : (hit.params.find? name).isSome = true) : name ∈ Slot.params slots := by
  rw [Entry.hit] at h
  cases hbound : (entry.compiled.expression.captures cursor).mapM (paramOf entry.compiled.params) with
  | error error => simp [hbound, bind, Except.bind] at h
  | ok bound =>
      simp only [hbound, bind, Except.bind] at h
      obtain rfl := Except.ok.inj h
      obtain ⟨value, hvalue⟩ := Option.isSome_iff_exists.mp hname
      obtain ⟨group, hgroup⟩ := exists_group_of_mapM_paramOf hbound (Pairs.mem_of_find?_ofList hvalue)
      rw [(Slot.exists_expression_of_compile hcompiled).2] at hgroup
      have hparam := List.mem_map_of_mem (f := Prod.snd) (Pairs.mem_of_find?_ofList hgroup)
      rwa [Slot.map_snd_groupsFrom] at hparam

end Engine

theorem Route.mem_names_of_mem_params {route : Route} {entry : Entry Unit} (h : entry ∈ route.entries)
    {name : String} (hname : ∀ slots, Slot.compile "" slots = .ok entry.compiled →
      name ∈ Slot.params slots) : name ∈ (tokens (scan route.uri.toList)).map Template.Token.name := by
  have hslots : name ∈ Slot.params route.slots := by
    rw [entries] at h
    split at h
    next canonical bare hforms =>
      obtain ⟨hcanonical, hbare⟩ := compile_of_compileForms hforms
      simp only [List.mem_cons, List.not_mem_nil, or_false] at h
      rcases h with rfl | rfl
      · exact route.params_canonicalSlots ▸ hname _ hcanonical
      · exact hname _ hbare
    next => simp at h
  rwa [slots, Template.params_slots, Template.names_absorbMarks] at hslots

theorem Route.exists_token_of_found {route : Route} {basePath method path : String} {own : Found}
    (h : route.found basePath method path = .ok (some own)) {name : String}
    (hname : own.params.contains name = true) :
    ∃ t ∈ tokens (scan route.uri.toList), t.name = name := by
  rw [Route.found] at h
  split at h
  next => simp at h
  next rest _ =>
    cases hfirst : Engine.firstHit (Text.upper method) rest route.entries with
    | error error => simp [hfirst, Except.map] at h
    | ok answer =>
        cases answer with
        | none => simp [hfirst, Except.map] at h
        | some hit =>
            simp only [hfirst, Except.map, Option.map_some, Except.ok.injEq, Option.some.injEq] at h
            subst h
            obtain ⟨entry, hentry, cursor, -, hhit⟩ := Engine.exists_entry_of_firstHit hfirst
            exact List.mem_map.mp (Route.mem_names_of_mem_params hentry fun slots hcompiled =>
              Engine.Entry.mem_params_of_hit hhit hcompiled hname)

theorem Table.exists_of_firstAnswer {ε : Type} {place : Nat}
    {answers : List (Except ε (Option Found))} {found : Found}
    (h : Table.firstAnswer place answers = .ok (some found)) :
    ∃ (i : Nat) (own : Found), answers[i]? = some (Except.ok (some own)) ∧
      found = { own with route := place + i } := by
  induction answers generalizing place with
  | nil => simp [Table.firstAnswer] at h
  | cons answer rest ih =>
      cases answer with
      | error error => simp [Table.firstAnswer, Except.map] at h
      | ok own =>
          cases own with
          | none =>
              obtain ⟨i, own, hown, rfl⟩ := ih h
              refine ⟨i + 1, own, hown, ?_⟩
              rw [Nat.add_right_comm, Nat.add_assoc]
          | some own =>
              simp only [Table.firstAnswer, Except.map, Option.map_some, Except.ok.injEq,
                Option.some.injEq] at h
              exact ⟨0, own, rfl, h.symm⟩

namespace Router

variable {r : Router}

theorem Reachable.exists_tokens (h : r.Reachable)
    (hbracket : ∀ route ∈ r.routes, '[' ∉ route.uri.toList) {method path : String} {found : Found}
    (hfind : (r.find method path).result = .ok (some found)) :
    ∃ route, r.routes[found.route]? = some route ∧ ∀ name, found.params.contains name = true →
      ∃ t ∈ tokens (scan route.uri.toList), t.name = name := by
  have hbuilds : r.Builds := by
    cases hbuild : r.build.result with
    | error error => simp [find_of_error hbuild] at hfind
    | ok table => exact ⟨table, hbuild⟩
  rw [h.find_eq hbracket hbuilds] at hfind
  obtain ⟨i, own, hown, rfl⟩ := Table.exists_of_firstAnswer hfind
  rw [List.getElem?_map, Option.map_eq_some_iff] at hown
  obtain ⟨route, hroute, hfound⟩ := hown
  refine ⟨route, by simpa using hroute, fun name hname => ?_⟩
  cases hanswer : route.found r.basePath method path with
  | error error => simp [hanswer, Except.mapError] at hfound
  | ok answer =>
      simp only [hanswer, Except.mapError, Except.ok.injEq] at hfound
      subst hfound
      exact Route.exists_token_of_found hanswer hname

/--
A lookup captures tokens of the route it finds.  Whatever was captured is read
by key, and so it is by attribute under a free name; a free name that was not
captured reads as nothing either way.  A reserved name is read by key only.
-/
theorem found_params_read_alike (h : r.Reachable) {method path : String} {found : Found}
    (hfind : (r.find method path).result = .ok (some found)) :
    ((∀ route ∈ r.routes, '[' ∉ route.uri.toList) →
      ∃ route, r.routes[found.route]? = some route ∧ ∀ name, found.params.contains name = true →
        ∃ t ∈ tokens (scan route.uri.toList), t.name = name) ∧
    ∀ name,
      (found.params.contains name = true → ∃ value, found.params.item? name = some value ∧
        (Params.IsFree name → found.params.readAttribute name = .ok (.value (some value)))) ∧
      (found.params.contains name = false → found.params.item? name = none ∧
        (Params.IsFree name → found.params.readAttribute name = .ok (.value none))) ∧
      (Params.isReserved name = true ∨ name = "_values" →
        ∀ value, found.params.readAttribute name ≠ .ok (.value value)) := by
  refine ⟨fun hbracket => h.exists_tokens hbracket hfind, fun name =>
    ⟨fun hcaptured => ?_, fun hmissing => ?_, found.params.readAttribute_ne_value⟩⟩
  · obtain ⟨value, hvalue⟩ := found.params.contains_eq_true.mp hcaptured
    exact ⟨value, hvalue, fun hfree => by rw [found.params.readAttribute_of_isFree hfree, hvalue]⟩
  · have hvalue := found.params.contains_eq_false.mp hmissing
    exact ⟨hvalue, fun hfree => by rw [found.params.readAttribute_of_isFree hfree, hvalue]⟩

/-- One low line alone reserves nothing. -/
theorem found_params_read_alike_single :
    let r := single "posts/{_id}" "post" "_id" "[0-9]+"
    let found : Found := ⟨0, ⟨⟨[("_id", "7")]⟩⟩⟩
    r.Reachable ∧ (r.find "GET" "/posts/7/").result = .ok (some found) ∧
      found.params.readAttribute "_id" = .ok (.value (some "7")) ∧
      found.params.item? "id" = none ∧ found.params.readAttribute "id" = .ok (.value none) := by
  intro r found
  have hfind : (r.find "GET" "/posts/7/").result = .ok (some found) := by decide +kernel
  have hread := (found_params_read_alike (reachable_single _ _ _ _) hfind).2
  obtain ⟨value, hvalue, hattribute⟩ := (hread "_id").1 (by decide +kernel)
  obtain ⟨hmissing, hnothing⟩ := (hread "id").2.1 (by decide +kernel)
  have hseven : value = "7" := Option.some.inj (hvalue.symm.trans (by decide +kernel))
  subst hseven
  exact ⟨reachable_single _ _ _ _, hfind,
    hattribute ⟨by decide +kernel, by decide +kernel, by decide +kernel, by decide +kernel⟩, hmissing,
    hnothing ⟨by decide +kernel, by decide +kernel, by decide +kernel, by decide +kernel⟩⟩

/-- A token may have a reserved name, which is then read by key but is no attribute. -/
theorem reserved_token_is_no_attribute :
    let r := single "posts/{__id}" "post" "__id" "[0-9]+"
    let found : Found := ⟨0, ⟨⟨[("__id", "7")]⟩⟩⟩
    r.Reachable ∧ Template.IsName "__id".toList ∧
      (r.find "GET" "/posts/7/").result = .ok (some found) ∧
      found.params.contains "__id" = true ∧ found.params.item? "__id" = some "7" ∧
      found.params.readAttribute "__id" = .error (.noAttribute "__id") := by
  refine ⟨reachable_single _ _ _ _, ⟨by decide, List.all_eq_true.mp (by decide)⟩, ?_⟩
  decide +kernel

end Router

end HttpRouting
