import HttpRouting.Proofs.Router.BasePath
import HttpRouting.Proofs.Router.Freezing
import HttpRouting.Proofs.Router.Lookup
import HttpRouting.Proofs.Segment.Matching
import HttpRouting.Proofs.Table.Forms
import HttpRouting.Proofs.Text.Case

/-!
# Finding by segments

A router whose routes are made of segments without constraints finds what a
plain reading of the segments finds, whatever the path: no expression, however
literals and values look, makes a difference.
-/

namespace HttpRouting

open Engine (Slot remainder?)
open Http (splitOn)
open Table (firstAnswer)

/-! ## Routes made of segments -/

/-- A route made of segments, none of whose tokens has a constraint. -/
structure Route.IsMadeOf (route : Route) (segments : List Segment) : Prop where
  template : Segment.ofTemplate? route.uri.toList = some segments
  regular : Segment.IsRegular segments
  bracket : '[' ∉ route.uri.toList
  free : ∀ t, .token t ∈ segments → Template.Compiler.constraint? route.constraints t = none

namespace Segment

theorem eq_of_ofText? {part text : List Char} (h : ofText? part = some (.literal text)) :
    part = text ∧ text ≠ [] := by
  unfold ofText? at h
  split at h
  next => simp at h
  next =>
    split at h
    next => simp at h
    next hplain =>
      obtain rfl := Segment.literal.inj (Option.some.inj h)
      exact ⟨rfl, by rintro rfl; simp at hplain⟩

theorem mem_of_mapM_ofText? {parts : List (List Char)} {segments : List Segment}
    (h : parts.mapM ofText? = some segments) {text : List Char} (htext : .literal text ∈ segments) :
    text ∈ parts ∧ text ≠ [] := by
  induction parts generalizing segments with
  | nil =>
      obtain rfl : [] = segments := by simpa using h
      simp at htext
  | cons part parts ih =>
      simp only [List.mapM_cons, Option.bind_eq_bind, Option.bind_eq_some_iff, Option.pure_def,
        Option.some.injEq] at h
      obtain ⟨own, hown, others, hothers, rfl⟩ := h
      rcases List.mem_cons.mp htext with rfl | htext
      · obtain ⟨rfl, hne⟩ := eq_of_ofText? hown
        exact ⟨List.mem_cons_self, hne⟩
      · obtain ⟨hmem, hne⟩ := ih hothers htext
        exact ⟨List.mem_cons_of_mem _ hmem, hne⟩

theorem literal_of_ofTemplate? {template : List Char} {segments : List Segment}
    (h : ofTemplate? template = some segments) {text : List Char} (htext : .literal text ∈ segments) :
    text ≠ [] ∧ '/' ∉ text := by
  unfold ofTemplate? at h
  split at h
  next =>
    obtain rfl := Option.some.inj h
    simp at htext
  next =>
    obtain ⟨hmem, hne⟩ := mem_of_mapM_ofText? h htext
    exact ⟨hne, Http.not_mem_of_mem_splitOn hmem⟩

theorem nil_not_mem_of_matchAll? {segments : List Segment}
    (hliteral : ∀ text, .literal text ∈ segments → text ≠ []) {parts : List (List Char)}
    {params : List (String × String)} (h : matchAll? segments parts = some params) : [] ∉ parts := by
  induction segments generalizing parts params with
  | nil =>
      cases parts with
      | nil => simp
      | cons part parts => simp [matchAll?] at h
  | cons segment segments ih =>
      have hrest {parts : List (List Char)} {params : List (String × String)} :=
        @ih (fun text htext => hliteral text (List.mem_cons_of_mem _ htext)) parts params
      cases segment with
      | literal text =>
          obtain ⟨rest, rfl, hmatch⟩ := matchAll?_literal.mp h
          simp [Ne.symm (hliteral text List.mem_cons_self), hrest hmatch]
      | token t =>
          rcases matchAll?_token.mp h with ⟨part, rest, more, hne, rfl, hmatch, -⟩ | ⟨-, -, rfl, -⟩
          · simp [Ne.symm hne, hrest hmatch]
          · simp

theorem ne_nil_of_ofTemplate? {template : List Char} {segments : List Segment}
    (h : ofTemplate? template = some segments) (hne : template.isEmpty = false) : segments ≠ [] := by
  rintro rfl
  unfold ofTemplate? at h
  rw [hne] at h
  cases hsplit : splitOn '/' template with
  | nil => exact Http.splitOn_ne_nil '/' template hsplit
  | cons part parts => simp [hsplit, List.mapM_cons, Option.bind_eq_some_iff] at h

theorem match?_eq {segments : List Segment} (hne : segments ≠ [])
    (hliteral : ∀ text, .literal text ∈ segments → text ≠ []) (rest : List Char) :
    match? segments rest =
      (if rest.getLast? = some '/' then matchAll? segments (splitOn '/' rest.dropLast) else none).or
        (matchAll? segments (splitOn '/' rest)) := by
  rw [match?, if_neg (by simpa using hne), dropFinalSlash]
  split
  next hlast =>
    obtain ⟨front, rfl⟩ := List.getLast?_eq_some_iff.mp hlast
    have hclosed : matchAll? segments (splitOn '/' (front ++ ['/'])) = none := by
      rw [Option.eq_none_iff_forall_ne_some]
      intro params hmatch
      refine nil_not_mem_of_matchAll? hliteral hmatch ?_
      have hparts : ∀ part ∈ splitOn '/' front ++ [[]], '/' ∉ part := by
        rw [List.forall_mem_append, List.forall_mem_singleton]
        exact ⟨fun _ => Http.not_mem_of_mem_splitOn, by simp⟩
      rw [Http.splitOn_eq_of_closeParts hparts]
      · simp
      · rw [Http.closeParts, List.flatMap_append, ← Http.closeParts, Http.closeParts_splitOn]
        rfl
    rw [hclosed]
    cases matchAll? segments (splitOn '/' (front ++ ['/']).dropLast) <;> rfl
  next =>
    cases matchAll? segments (splitOn '/' rest) <;> rfl

theorem nodup_of_matchAll? {segments : List Segment} (h : (segments.filterMap name?).Nodup)
    {parts : List (List Char)} {params : List (String × String)}
    (hmatch : matchAll? segments parts = some params) :
    (params.map Prod.fst).Nodup ∧ ∀ entry ∈ params, entry.1 ∈ segments.filterMap name? := by
  induction segments generalizing parts params with
  | nil =>
      cases parts with
      | nil =>
          obtain rfl : [] = params := Option.some.inj hmatch
          simp
      | cons part parts => simp [matchAll?] at hmatch
  | cons segment segments ih =>
      cases segment with
      | literal text =>
          obtain ⟨rest, rfl, hrest⟩ := matchAll?_literal.mp hmatch
          exact ih h hrest
      | token t =>
          have hnames : (Segment.token t :: segments).filterMap name? =
              t.name :: segments.filterMap name? := rfl
          rw [hnames, List.nodup_cons] at h
          rw [hnames]
          rcases matchAll?_token.mp hmatch with ⟨part, rest, more, -, rfl, hmore, rfl⟩ | ⟨-, -, -, rfl⟩
          · obtain ⟨hnodup, hmem⟩ := ih h.2 hmore
            refine ⟨?_, List.forall_mem_cons.mpr ⟨List.mem_cons_self, fun entry hentry =>
              List.mem_cons_of_mem _ (hmem entry hentry)⟩⟩
            rw [List.map_cons, List.nodup_cons]
            refine ⟨fun hown => ?_, hnodup⟩
            obtain ⟨entry, hentry, heq⟩ := List.mem_map.mp hown
            have hname : entry.1 = t.name := heq
            exact h.1 (hname ▸ hmem entry hentry)
          · simp

theorem nodup_of_match? {segments : List Segment} (h : (segments.filterMap name?).Nodup)
    {rest : List Char} {params : List (String × String)} (hmatch : match? segments rest = some params) :
    (params.map Prod.fst).Nodup := by
  rw [match?] at hmatch
  split at hmatch
  next =>
    split at hmatch
    next =>
      obtain rfl := Option.some.inj hmatch
      simp
    next => simp at hmatch
  next =>
    rcases Option.or_eq_some_iff.mp hmatch with hmatch | ⟨-, hmatch⟩
    · exact (nodup_of_matchAll? h hmatch).1
    · exact (nodup_of_matchAll? h hmatch).1

end Segment

namespace Route

variable {route : Route} {segments : List Segment} (h : route.IsMadeOf segments)

include h

theorem IsMadeOf.isFree : Segment.IsFree route.constraints segments where
  token := fun t ht => by rw [Template.Compiler.typeOf, h.free t ht, Option.getD_none]
  literal := fun text htext => (Segment.literal_of_ofTemplate? h.template htext).2

theorem IsMadeOf.isPlain :
    ∀ regex ∈ Slot.regexes route.slots, Regex.Expression.IsPlainText regex := by
  intro regex hregex
  rw [← regexes_canonicalSlots, canonicalSlots_of_segments h.template] at hregex
  obtain ⟨slot, hslot, hown⟩ := List.mem_filterMap.mp hregex
  cases slot with
  | literal c => simp at hown
  | hole lead param own optional =>
      obtain rfl : own = regex := Option.some.inj hown
      obtain ⟨t, ht, -, rfl, -⟩ := Template.exists_token_of_hole hslot
      have hmem : .token t ∈ segments := by
        simp only [Template.tokens, Segment.closed, List.mem_filterMap, List.mem_flatMap] at ht
        obtain ⟨piece, ⟨segment, hsegment, hpiece⟩, htoken⟩ := ht
        cases segment <;> simp [Segment.pieces] at hpiece <;> grind
      rw [h.isFree.token t hmem]
      exact Engine.arePlain_defaultTypes "" _ rfl

theorem IsMadeOf.captures_canonicalSlots (hne : segments ≠ []) {text : List Char}
    {params : List (String × String)} :
    Slot.Captures route.canonicalSlots text params ↔
      ∃ front, text = front ++ ['/'] ∧
        Segment.matchAll? segments (splitOn '/' front) = some params := by
  obtain ⟨hoptional, hsingle, -⟩ := h.regular
  rw [canonicalSlots_of_segments h.template]
  exact Segment.captures_closed h.isFree hoptional hsingle hne

theorem IsMadeOf.captures_slots (hempty : route.uri.toList.isEmpty = false) {text : List Char}
    {params : List (String × String)} :
    Slot.Captures route.slots text params ↔
      Segment.matchAll? segments (splitOn '/' text) = some params := by
  rw [← Slot.captures_append_self, ← canonicalSlots_of_not_isEmpty hempty,
    h.captures_canonicalSlots (Segment.ne_nil_of_ofTemplate? h.template hempty)]
  constructor
  · rintro ⟨front, heq, hmatch⟩
    rwa [List.append_cancel_right heq]
  · exact fun hmatch => ⟨text, rfl, hmatch⟩

theorem IsMadeOf.found_ofList {basePath method path : String} {rest : List Char}
    (hrest : remainder? basePath.toList path.toList = some rest) :
    route.found basePath method path =
      .ok (if Text.upper method ∈ route.methods.map Text.upper then
        (Segment.match? segments rest).map fun params => ⟨0, ⟨.ofList params⟩⟩ else none) := by
  have hliteral : ∀ text, .literal text ∈ segments → text ≠ [] := fun text htext =>
    (Segment.literal_of_ofTemplate? h.template htext).1
  cases hempty : route.uri.toList.isEmpty with
  | true =>
      have hnil : segments = [] := by
        have htemplate := h.template
        rw [Segment.ofTemplate?, if_pos hempty] at htemplate
        exact (Option.some.inj htemplate).symm
      subst hnil
      have hcaptures : ∀ params, Slot.Captures [] rest params ↔
          Segment.match? [] rest = some params := fun params => by
        rw [Engine.Slot.captures_nil]
        cases rest <;> simp [Segment.match?, eq_comm]
      rw [found_of_captures h.isPlain hrest (canonicalSlots_of_isEmpty hempty ▸ hcaptures)
        (slots_of_isEmpty hempty ▸ hcaptures), Option.or_self]
  | false =>
      have hne := Segment.ne_nil_of_ofTemplate? h.template hempty
      rw [Segment.match?_eq hne hliteral,
        found_of_captures h.isPlain hrest _ fun params => h.captures_slots hempty]
      intro params
      rw [h.captures_canonicalSlots hne]
      constructor
      · rintro ⟨front, rfl, hmatch⟩
        simpa using hmatch
      · intro hmatch
        split at hmatch
        next hlast =>
          obtain ⟨front, rfl⟩ := List.getLast?_eq_some_iff.mp hlast
          exact ⟨front, rfl, by simpa using hmatch⟩
        next => simp at hmatch

theorem IsMadeOf.found {basePath method path : String} {rest : List Char}
    (hrest : remainder? basePath.toList path.toList = some rest) :
    route.found basePath method path =
      .ok (if Text.upper method ∈ route.methods.map Text.upper then
        (Segment.match? segments rest).map fun params => ⟨0, ⟨⟨params⟩⟩⟩ else none) := by
  obtain ⟨-, -, hnames⟩ := h.regular
  rw [h.found_ofList hrest]
  cases hmatch : Segment.match? segments rest with
  | none => rfl
  | some params =>
      have hparams : Pairs.ofList params = ⟨params⟩ :=
        congrArg Pairs.mk (Pairs.ofList_entries (Segment.nodup_of_match? hnames hmatch))
      rw [Option.map_some, Option.map_some, hparams]

end Route

/-! ## Routers made of segments -/

theorem Table.firstAnswer_ok {α ε : Type} (f : α → Option Found) (place : Nat) (items : List α) :
    firstAnswer place (items.map fun item => (.ok (f item) : Except ε (Option Found))) =
      .ok ((items.zipIdx place).findSome? fun (item, i) =>
        (f item).map fun found => { found with route := i }) := by
  induction items generalizing place with
  | nil => rfl
  | cons item rest ih =>
      rw [List.map_cons, List.zipIdx_cons, List.findSome?_cons]
      dsimp only
      cases f item with
      | none => exact ih (place + 1)
      | some found => rfl

/-- What routes find in a text below the base path when they are read as segments. -/
def Segment.find? (routes : List Route) (method : String) (rest : List Char) : Option Found :=
  routes.zipIdx.findSome? fun (route, place) =>
    if method ∈ route.methods then
      ((ofTemplate? route.uri.toList).bind (match? · rest)).map fun params => ⟨place, ⟨⟨params⟩⟩⟩
    else none

namespace Router

variable {r : Router}

theorem Reachable.upper_methods (h : r.Reachable) :
    ∀ route ∈ r.routes, ∀ method ∈ route.methods, Text.upper method = method := by
  refine h.induct (P := fun r => ∀ route ∈ r.routes, ∀ method ∈ route.methods,
    Text.upper method = method) (fun r hroutes _ _ => by simp [hroutes])
    fun r operation s hstep hr => ?_
  have hmap {change : Route → Route} (hchange : ∀ route, (change route).methods = route.methods) :
      ∀ route ∈ r.routes.map change, ∀ method ∈ route.methods, Text.upper method = method := by
    intro route hroute
    obtain ⟨old, hold, rfl⟩ := List.mem_map.mp hroute
    rw [hchange]
    exact hr old hold
  cases hstep with
  | stay => exact hr
  | add methods uri action _ =>
      rw [List.forall_mem_append, List.forall_mem_singleton]
      refine ⟨hr, fun method hmethod => ?_⟩
      obtain ⟨given, -, rfl⟩ := List.mem_map.mp (List.mem_eraseDups.mp hmethod)
      exact Text.upper_upper given
  | adjust a hold happly =>
      intro route hroute
      rcases List.mem_or_eq_of_mem_set hroute with hroute | rfl
      · exact hr route hroute
      · rw [(Adjustment.becomes happly).methods]
        exact hr _ (List.mem_of_getElem? hold)
  | rebase path _ =>
      rw [setBasePath]
      dsimp only
      split
      next => exact hmap fun _ => rfl
      next => exact hr
  | renumber _ _ => exact hr
  | compile hopen hbuild _ =>
      rw [(build_of_ok hopen hbuild).2.1]
      exact hmap fun _ => rfl

theorem mem_upper_methods {methods : List String} (h : ∀ method ∈ methods, Text.upper method = method)
    (method : String) : Text.upper method ∈ methods.map Text.upper ↔ Text.upper method ∈ methods := by
  constructor
  · intro hmem
    obtain ⟨own, hown, heq⟩ := List.mem_map.mp hmem
    rwa [← heq, h own hown]
  · exact fun hmem => List.mem_map.mpr ⟨_, hmem, Text.upper_upper method⟩

theorem Reachable.builds_of_segments (h : r.Reachable)
    (hroutes : ∀ route ∈ r.routes, ∃ segments, route.IsMadeOf segments) : r.Builds :=
  (h.builds_iff fun route hroute => (hroutes route hroute).choose_spec.bracket).mpr
    fun route hroute => Route.check_eq_ok (hroutes route hroute).choose_spec.isPlain

theorem Reachable.find_of_segments (h : r.Reachable)
    (hroutes : ∀ route ∈ r.routes, ∃ segments, route.IsMadeOf segments) {method path : String}
    {rest : List Char} (hrest : remainder? r.basePath.toList path.toList = some rest) :
    (r.find method path).result = .ok (Segment.find? r.routes (Text.upper method) rest) := by
  have hbracket : ∀ route ∈ r.routes, '[' ∉ route.uri.toList := fun route hroute =>
    (hroutes route hroute).choose_spec.bracket
  have hfound : ∀ route ∈ r.routes, (route.found r.basePath method path).mapError RouterError.engine =
      .ok (if Text.upper method ∈ route.methods then
        ((Segment.ofTemplate? route.uri.toList).bind (Segment.match? · rest)).map fun params =>
          ⟨0, ⟨⟨params⟩⟩⟩ else none) := by
    intro route hroute
    obtain ⟨segments, hsegments⟩ := hroutes route hroute
    rw [hsegments.found hrest, hsegments.template]
    simp only [mem_upper_methods (h.upper_methods route hroute), Option.bind_some]
    rfl
  rw [h.find_eq hbracket (h.builds_of_segments hroutes), List.map_congr_left hfound,
    Table.firstAnswer_ok, Segment.find?]
  refine congrArg (fun answer => Except.ok (List.findSome? answer r.routes.zipIdx))
    (funext fun pair => ?_)
  dsimp only
  split
  next => rw [Option.map_map]; rfl
  next => rfl

theorem Reachable.find_of_outside (h : r.Reachable)
    (hbracket : ∀ route ∈ r.routes, '[' ∉ route.uri.toList) (hbuilds : r.Builds) {method path : String}
    (hrest : remainder? r.basePath.toList path.toList = none) :
    (r.find method path).result = .ok none := by
  rw [h.find_eq hbracket hbuilds]
  refine Table.firstAnswer_none 0 fun answer hanswer => ?_
  obtain ⟨route, -, rfl⟩ := List.mem_map.mp hanswer
  rw [Route.found, hrest]
  rfl

/--
A router whose routes are segments without constraints finds the first route
that has the method and whose segments take what is below the base path, which
is nothing if only the final slash of the base path is missing.
-/
theorem find_reads_segments (h : r.Reachable)
    (hroutes : ∀ route ∈ r.routes, ∃ segments, route.IsMadeOf segments) (method path : String) :
    (∀ rest, path = r.basePath ++ .ofList rest →
      (r.find method path).result = .ok (Segment.find? r.routes (Text.upper method) rest)) ∧
    (path ++ "/" = r.basePath →
      (r.find method path).result = .ok (Segment.find? r.routes (Text.upper method) [])) ∧
    ((∀ rest, path ≠ r.basePath ++ .ofList rest) → path ++ "/" ≠ r.basePath →
      (r.find method path).result = .ok none) := by
  obtain ⟨front, hbase, -, hremainder⟩ := h.exists_front
  refine ⟨fun rest hpath => ?_, fun hpath => ?_, fun hbelow hitself => ?_⟩
  · exact h.find_of_segments hroutes ((hremainder _ _).mpr (.inl (by simp [hpath, hbase])))
  · have hchars := congrArg String.toList hpath
    rw [String.toList_append, hbase] at hchars
    exact h.find_of_segments hroutes
      ((hremainder _ _).mpr (.inr ⟨List.append_cancel_right hchars, rfl⟩))
  · have hbracket : ∀ route ∈ r.routes, '[' ∉ route.uri.toList := fun route hroute =>
      (hroutes route hroute).choose_spec.bracket
    refine h.find_of_outside hbracket (h.builds_of_segments hroutes) ?_
    rw [Option.eq_none_iff_forall_ne_some]
    intro rest hrest
    rcases (hremainder _ _).mp hrest with hpath | ⟨hpath, -⟩
    · exact hbelow rest (String.toList_inj.mp (by simp [hpath, hbase]))
    · exact hitself (String.toList_inj.mp (by simp [hpath, hbase]))

/-- Metacharacters stand for themselves, and no segment is empty, but an optional one may be missing. -/
theorem find_reads_segments_of_pages :
    let r := fresh.after [.setBasePath "api", .map ["get"] "" (.value .null),
      .map ["get", "Post"] "a.b*/{page?}" (.value .null), .map ["get"] "{kind}/new" (.value .null)]
    (∀ route ∈ r.routes, ∃ segments, route.IsMadeOf segments) ∧
      (r.find "GET" "/api").result = .ok (some ⟨0, ⟨⟨[]⟩⟩⟩) ∧
      (r.find "post" "/api/a.b*").result = .ok (some ⟨1, ⟨⟨[]⟩⟩⟩) ∧
      (r.find "get" "/api/a.b*/new/").result = .ok (some ⟨1, ⟨⟨[("page", "new")]⟩⟩⟩) ∧
      (r.find "get" "/api/axb/new").result = .ok (some ⟨2, ⟨⟨[("kind", "axb")]⟩⟩⟩) ∧
      (r.find "get" "/api/a.b*//").result = .ok none ∧ (r.find "get" "/apia").result = .ok none := by
  intro r
  have hroutes : ∀ route ∈ r.routes, ∃ segments, route.IsMadeOf segments := by
    have hread : ∀ route ∈ r.routes, ((Segment.ofTemplate? route.uri.toList).any fun segments =>
        decide (Segment.IsRegular segments)) = true ∧ '[' ∉ route.uri.toList ∧
        route.constraints = ∅ := by decide +kernel
    intro route hroute
    obtain ⟨hregular, hbracket, hconstraints⟩ := hread route hroute
    obtain ⟨segments, htemplate, hregular⟩ := (Option.any_eq_true ..).mp hregular
    exact ⟨segments, htemplate, of_decide_eq_true hregular, hbracket, fun t _ => by
      rw [hconstraints]; rfl⟩
  have hfind := find_reads_segments ((Reachable.new make_fresh).after _) hroutes
  have hbase : r.basePath = "/api/" := by decide +kernel
  refine ⟨hroutes, ?_, ?_, ?_, ?_, ?_, ?_⟩
  · exact ((hfind "GET" "/api").2.1 (by rw [hbase]; rfl)).trans (by decide +kernel)
  · exact ((hfind "post" "/api/a.b*").1 "a.b*".toList (by rw [hbase]; rfl)).trans (by decide +kernel)
  · exact ((hfind "get" "/api/a.b*/new/").1 "a.b*/new/".toList (by rw [hbase]; rfl)).trans
      (by decide +kernel)
  · exact ((hfind "get" "/api/axb/new").1 "axb/new".toList (by rw [hbase]; rfl)).trans
      (by decide +kernel)
  · exact ((hfind "get" "/api/a.b*//").1 "a.b*//".toList (by rw [hbase]; rfl)).trans
      (by decide +kernel)
  · refine (hfind "get" "/apia").2.2 (fun rest hpath => ?_) (by rw [hbase]; decide)
    rw [hbase, ← String.toList_inj] at hpath
    simp at hpath

end Router

end HttpRouting
