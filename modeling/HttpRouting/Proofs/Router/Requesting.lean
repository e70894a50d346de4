import HttpRouting.Http.Request
import HttpRouting.Proofs.Http.Splitting
import HttpRouting.Proofs.Router.BasePath
import HttpRouting.Proofs.Router.Inversion
import HttpRouting.Proofs.Table.Forms
import HttpRouting.Proofs.Text.Case

/-!
# Requests for written URLs

A URL holds its values as they are, but a request for it is split at the first
question mark and loses the blanks and slashes that it begins with.  Without a
question mark, and without a blank behind the first slash, the request has the
URL for its path and finds what the URL finds.
-/

namespace HttpRouting

open Engine (Slot givenText?)
open Template (scan tokens)

/-! ## Paths of requests -/

namespace Request

variable (target method : String) (headers query : Pairs String) (body : List UInt8)

theorem path_ofTarget : (ofTarget target method headers query body).path.toList =
    '/' :: Path.trimLeft (target.toList.takeWhile (· != '?')) := by
  obtain ⟨hpath, hwhole⟩ := Http.splitFirst_eq '?' target.toList
  have hsplit : (Http.splitQuery target).1.toList = target.toList.takeWhile (· != '?') := by
    rw [Http.splitQuery]
    split
    next hnone => exact (hwhole (by rw [hnone])).symm
    next path fields hsome => rw [String.toList_ofList, ← hpath, hsome]
  have hown : (ofTarget target method headers query body).path =
      Path.addLeadingSlash (Http.splitQuery target).1 := rfl
  rw [hown, Path.addLeadingSlash, String.toList_ofList, hsplit]

theorem method_ofTarget : (ofTarget target method headers query body).method = Text.upper method := rfl

end Request

/-- A request for such a URL takes it as it is: no query is split off and no blank is lost. -/
def SurvivesRequest (u : String) : Prop := '?' ∉ u.toList ∧ ¬ ['/', ' '] <+: u.toList

namespace Request

section

variable {u : String} {rest : List Char} (hu : u.toList = '/' :: rest) (method : String)
  (headers query : Pairs String) (body : List UInt8)

include hu

theorem path_ofTarget_cons : (ofTarget u method headers query body).path.toList =
    '/' :: Path.trimLeft (rest.takeWhile (· != '?')) := by
  rw [path_ofTarget, hu, List.takeWhile_cons_of_pos (by decide)]
  exact congrArg ('/' :: ·) (List.dropWhile_cons_of_pos rfl)

theorem length_path_ofTarget_le :
    (ofTarget u method headers query body).path.toList.length ≤ u.toList.length := by
  rw [path_ofTarget_cons hu, hu, List.length_cons, List.length_cons, Nat.add_le_add_iff_right]
  exact (List.dropWhile_suffix _).length_le.trans (List.takeWhile_prefix _).length_le

variable (hrest : rest.head? ≠ some '/')

include hrest

theorem path_ofTarget_eq_iff :
    (ofTarget u method headers query body).path = u ↔ SurvivesRequest u := by
  rw [← String.toList_inj, path_ofTarget_cons hu, SurvivesRequest, hu, List.cons.injEq,
    and_iff_right rfl]
  constructor
  · intro heq
    -- Neither step may have shortened the text.
    have hwhole : rest.takeWhile (· != '?') = rest := by
      refine (List.takeWhile_prefix _).eq_of_length (Nat.le_antisymm (List.takeWhile_prefix _).length_le ?_)
      calc rest.length = (Path.trimLeft (rest.takeWhile (· != '?'))).length := by rw [heq]
        _ ≤ _ := (List.dropWhile_suffix _).length_le
    rw [hwhole] at heq
    refine ⟨fun hmark => ?_, fun hblank => ?_⟩
    · simpa using List.takeWhile_eq_self_iff.mp hwhole '?' (by simpa using hmark)
    · obtain ⟨more, rfl⟩ := (List.cons_prefix_cons.mp hblank).2
      have hhead : (Path.trimLeft ([' '] ++ more)).head? = some ' ' := by rw [heq]; rfl
      exact absurd (Path.dropWhile_head? hhead) (by decide)
  · rintro ⟨hmark, hblank⟩
    have hwhole : rest.takeWhile (· != '?') = rest := by
      refine List.takeWhile_eq_self_iff.mpr fun c hc => ?_
      simpa using fun heq : c = '?' => hmark (List.mem_cons_of_mem _ (heq ▸ hc))
    rw [hwhole]
    refine Path.trimLeft_eq fun c hc => ?_
    obtain ⟨more, rfl⟩ := List.head?_eq_some_iff.mp hc
    have hne : c ≠ ' ' ∧ c ≠ '/' :=
      ⟨by rintro rfl; exact hblank ⟨more, rfl⟩, by rintro rfl; exact hrest rfl⟩
    simp [Path.isFiller, hne]

theorem survives_of_append_slash (h : u = (ofTarget u method headers query body).path ++ "/") :
    SurvivesRequest u := by
  have hchars := congrArg String.toList h
  rw [String.toList_append, path_ofTarget_cons hu, hu] at hchars
  have hsplit : rest = Path.trimLeft (rest.takeWhile (· != '?')) ++ ['/'] :=
    List.tail_eq_of_cons_eq hchars
  have hmark : '?' ∉ rest := fun hmem => by
    rw [hsplit] at hmem
    have hkept : '?' ∈ Path.trimLeft (rest.takeWhile (· != '?')) := by simpa using hmem
    simpa using List.mem_takeWhile_imp ((List.dropWhile_suffix _).subset hkept)
  rw [SurvivesRequest, hu]
  refine ⟨by simpa using hmark, fun hblank => ?_⟩
  obtain ⟨more, hmore⟩ := (List.cons_prefix_cons.mp hblank).2
  cases htrim : Path.trimLeft (rest.takeWhile (· != '?')) with
  | nil =>
      rw [hsplit, htrim] at hrest
      exact hrest rfl
  | cons c kept =>
      have hc := Path.dropWhile_head? (s := rest.takeWhile (· != '?')) (c := c) (by
        rw [show List.dropWhile _ _ = Path.trimLeft _ from rfl, htrim]
        rfl)
      rw [htrim, ← hmore] at hsplit
      obtain rfl : ' ' = c := List.head_eq_of_cons_eq hsplit
      exact absurd hc (by decide)

end

end Request

/-! ## Written URLs -/

theorem Template.exists_fill_cons {texts : String → Option (List Char)} {piece : Piece}
    {rest : List Piece} (hslash : piece ≠ .literal '/')
    (h : ∀ t ∈ tokens (piece :: rest), ∃ word, texts t.name = some word ∧ word ≠ [] ∧ '/' ∉ word) :
    ∃ c more, fill texts (piece :: rest) = c :: more ∧ c ≠ '/' := by
  cases piece with
  | token t =>
      obtain ⟨word, hword, hne, hfree⟩ := h t (by simp)
      obtain ⟨c, more, rfl⟩ := List.exists_cons_of_ne_nil hne
      refine ⟨c, more ++ fill texts rest, by rw [fill, hword]; rfl, ?_⟩
      rintro rfl
      exact hfree List.mem_cons_self
  | literal c =>
      have hc : c ≠ '/' := fun heq => hslash (by rw [heq])
      cases rest with
      | nil => exact ⟨c, _, rfl, hc⟩
      | cons next others =>
          cases next with
          | literal d => exact ⟨c, _, rfl, hc⟩
          | token t =>
              obtain ⟨word, hword, -⟩ := h t (by simp)
              exact ⟨c, _, by rw [fill, hword]; rfl, hc⟩

/-- A route without constraints, whose template has neither brackets nor marks of any kind. -/
structure Route.IsSimple (route : Route) : Prop where
  constraints : route.constraints = ∅
  bracket : '[' ∉ route.uri.toList
  mark : '?' ∉ route.uri.toList
  required : ∀ token ∈ tokens (scan route.uri.toList), token.optional = false

namespace Route.IsSimple

variable {route : Route} (h : route.IsSimple) {texts : String → Option (List Char)}

include h

theorem hasPlainConstraints : route.HasPlainConstraints := by
  rw [HasPlainConstraints, h.constraints]
  exact fun _ hentry => absurd hentry (List.not_mem_nil)

theorem slots_eq : route.slots = Template.slots ∅ (scan route.uri.toList) := by
  rw [slots, h.constraints, Template.absorbMarks_scan fun hmarked => h.mark (hmarked.subset (by simp))]

theorem exists_segment (hadmits : ∀ slot ∈ route.canonicalSlots, slot.Admits texts) :
    ∀ token ∈ tokens (scan route.uri.toList),
      ∃ word, texts token.name = some word ∧ word ≠ [] ∧ '/' ∉ word := by
  rw [admits_canonicalSlots, h.slots_eq,
    Template.forall_mem_slots_iff (fun _ => trivial) fun _ _ _ _ => Iff.rfl] at hadmits
  intro token htoken
  have htext := hadmits token htoken
  cases hword : texts token.name with
  | none => simp [hword, h.required token htoken] at htext
  | some word =>
      rw [hword] at htext
      exact ⟨word, rfl, Slot.mem_languageOf_anySegment.mp htext⟩

theorem head?_fill (htrimmed : Path.IsTrimmed route.uri.toList)
    (hadmits : ∀ slot ∈ route.canonicalSlots, slot.Admits texts) :
    (Slot.fill texts route.canonicalSlots).head? ≠ some '/' := by
  have hsegment := h.exists_segment hadmits
  rw [route.fill_canonicalSlots, h.slots_eq, Template.fill_slots, Template.withFinalSlash]
  cases hpieces : scan route.uri.toList with
  | nil =>
      rw [Template.scan_eq_nil.mp hpieces]
      simp [Template.fill]
  | cons piece rest =>
      have hslash : piece ≠ .literal '/' := by
        rintro rfl
        have hhead := Template.head?_of_head?_scan (s := route.uri.toList) (by rw [hpieces]; rfl)
        exact absurd (htrimmed.head _ hhead) (by decide)
      rw [hpieces] at hsegment
      obtain ⟨c, more, hfill, hc⟩ := Template.exists_fill_cons hslash hsegment
      rw [hfill]
      split <;> simpa using hc

end Route.IsSimple

namespace Router

variable {r : Router} {t : Table} {place : Nat} {name : String} {route : Route}
  {earlier : Engine Nat} {first last : List (Engine.Entry Nat)} {f : Table.Forms}

theorem Serves.decides_canonical (h : r.Serves t place route earlier first last f)
    (hroute : route.IsTemplate) (hplain : route.HasPlainConstraints) :
    Engine.Decides f.canonical.compiled route.canonicalSlots := by
  obtain ⟨slots, hslots, hcompile⟩ :=
    Engine.exists_slots_of_compileAfresh (h.stands.sound.registered _ h.canonical_mem)
  obtain rfl := Option.some.inj (hslots.symm.trans (h.resolve?_canonical hroute))
  exact Engine.decides_of_compile hplain.regexes_canonical hcompile

theorem Serves.exists_text (h : r.Serves t place route earlier first last f)
    (hbuild : r.build.result = .ok t) (hroute : route.IsTemplate) (hplain : route.HasPlainConstraints)
    (hlast : r.LastNamed place name route) {params : Pairs Value} {u : String}
    (hurl : (r.url name params).result = .ok u) :
    ∃ text, u = r.basePath ++ .ofList text ∧
      Slot.Spells route.canonicalSlots (Slot.valuesOf (givenText? params) route.canonicalSlots) text := by
  obtain ⟨-, text, htext, hu⟩ :=
    (url_eq_ok_iff hbuild h.basePath hlast (h.named name hlast) params u).mp hurl
  have hslots := Engine.resolve?_of_extends h.stands.types (h.resolve?_canonical hroute)
  exact ⟨text, hu,
    (Engine.fillPieces_eq_ok_iff hslots hplain.regexes_canonical name params text).mp htext⟩

theorem Serves.find_ne_none (h : r.Serves t place route earlier first last f)
    (hbuild : r.build.result = .ok t) (hdecides : Engine.Decides f.canonical.compiled route.canonicalSlots)
    {values : List (Option (List Char))} {text : List Char}
    (hspells : Slot.Spells route.canonicalSlots values text) {method : String}
    (hmethod : method ∈ route.methods) :
    (r.find method (r.basePath ++ .ofList text)).result ≠ .ok none := by
  rw [find_below hbuild h.basePath, h.entries_eq]
  cases hfirst : Engine.firstHit (Text.upper method) text first with
  | error error =>
      rw [Engine.firstHit_append_of_error hfirst]
      simp [Except.map, Except.mapError]
  | ok answer =>
      cases answer with
      | some hit =>
          rw [Engine.firstHit_append_of_some hfirst]
          simp [Except.map, Except.mapError]
      | none =>
          obtain ⟨cursor, hfits⟩ := hdecides.fits (h.methods_canonical hmethod) hspells
          obtain ⟨others, -, hhit⟩ := hdecides.hit hfits
          rw [Engine.firstHit_append_of_none hfirst, Engine.firstHit_cons_of_fits hfits, hhit]
          simp [Except.map, Except.mapError]

theorem find_upper (hbuilds : r.Builds) (method path : String) :
    (r.find (Text.upper method) path).result = (r.find method path).result := by
  obtain ⟨t, hbuild⟩ := hbuilds
  rw [find_of_build hbuild, find_of_build hbuild]
  simp only [Table.find, Engine.lookup, Text.upper_upper]

theorem Reachable.exists_rest (h : r.Reachable) {text : List Char} (htext : text.head? ≠ some '/') :
    ∃ rest, (r.basePath ++ .ofList text).toList = '/' :: rest ∧ rest.head? ≠ some '/' := by
  obtain ⟨base, hbase⟩ := h.exists_based
  rw [hbase.basePath, Path.normalizeBase_eq]
  split
  next => exact ⟨text, by simp, htext⟩
  next hne =>
    obtain ⟨c, more, hchars⟩ := List.exists_cons_of_ne_nil (mt String.toList_eq_nil_iff.mp hne)
    have hc : c ≠ '/' := by
      rintro rfl
      exact absurd ((Path.isTrimmed_trimSlashes base).head '/' (by rw [hchars]; rfl)) (by decide)
    exact ⟨c :: more ++ '/' :: text, by simp [hchars], by simpa using hc⟩

theorem find_of_remainder (hbuild : r.build.result = .ok t) (hbase : t.engine.basePath = r.basePath)
    {path : String} {rest : List Char}
    (h : Engine.remainder? r.basePath.toList path.toList = some rest) (method : String) :
    (r.find method path).result = (r.find method (r.basePath ++ .ofList rest)).result := by
  rw [find_of_build hbuild, find_below hbuild hbase, Table.find, Engine.lookup, hbase, h]

/-- With plain constraints, paths on which the same is found differ by a final slash at most. -/
theorem path_of_same_found (hreachable : r.Reachable) (hbuild : r.build.result = .ok t)
    (huris : ∀ other ∈ r.routes, other.IsUnambiguous)
    (hplain : ∀ other ∈ r.routes, other.HasPlainConstraints) {method method' path : String}
    {text : List Char} (htext : text.head? ≠ some '/') {found : Found}
    (hfound : (r.find method (r.basePath ++ .ofList text)).result = .ok (some found))
    (hpath : (r.find method' path).result = .ok (some found)) :
    let u := r.basePath ++ .ofList text
    path = u ∨ u = path ++ "/" ∨ path = u ++ "/" := by
  intro u
  have hbase := hreachable.isConsistent.basePath_engine hbuild
  obtain ⟨front, hfront, -, hremainder⟩ := hreachable.exists_front
  cases hbelow : Engine.remainder? r.basePath.toList path.toList with
  | none =>
      rw [find_of_build hbuild, Table.find, Engine.lookup, hbase, hbelow] at hpath
      simp [Except.map, Except.mapError] at hpath
  | some rest =>
      rw [find_of_remainder hbuild hbase hbelow] at hpath
      obtain ⟨route, hroute, -, hfill, -⟩ :=
        exists_fits_of_find hreachable hbuild huris hplain hfound
      obtain ⟨other, hother, -, hfill', -⟩ :=
        exists_fits_of_find hreachable hbuild huris hplain hpath
      obtain rfl := Option.some.inj (hroute.symm.trans hother)
      generalize Template.fill found.text (scan route.uri.toList) = filled at hfill hfill'
      replace hfill := Template.eq_or_eq_append_slash hfill
      replace hfill' := Template.eq_or_eq_append_slash hfill'
      have hu : u.toList = front ++ '/' :: text := by simp [u, hfront]
      simp only [← String.toList_inj, String.toList_append, hu]
      rcases (hremainder _ _).mp hbelow with hchars | ⟨hchars, rfl⟩
      · rw [hchars]
        rcases hfill with rfl | rfl <;> rcases hfill' with rfl | rfl
        · exact .inl rfl
        · exact .inr (.inr (by simp))
        · exact .inr (.inl (by simp))
        · exact .inl rfl
      · rw [hchars]
        obtain rfl : filled = [] := hfill'.elim Eq.symm fun h => by simp at h
        rcases hfill with rfl | rfl
        · exact .inr (.inl rfl)
        · exact absurd rfl htext

/--
A URL of a simple route is found by a request for it as by itself, if the
request leaves it as it is.  A lookup of the URL never finds nothing; with
plain constraints up to the route it finds this route or one before it; and
with plain constraints and distinct names throughout, no other request for a
URL finds the same.
-/
theorem requested_url_finds_the_same (hreachable : r.Reachable) (hbuilds : r.Builds)
    (hlast : r.LastNamed place name route) (hsimple : route.IsSimple) {params : Pairs Value}
    {u : String} (hurl : (r.url name params).result = .ok u) {method : String}
    (hmethod : method ∈ route.methods) (headers query : Pairs String) (body : List UInt8) :
    let q := Request.ofTarget u method headers query body
    (SurvivesRequest u → (r.find q.method q.path).result = (r.find method u).result) ∧
      (r.find method u).result ≠ .ok none ∧
      ((∀ other ∈ r.routes.take (place + 1), other.HasPlainConstraints) →
        ∃ found, (r.find method u).result = .ok (some found) ∧ found.route ≤ place) ∧
      ((∀ other ∈ r.routes, other.IsUnambiguous ∧ other.HasPlainConstraints) →
        (r.find q.method q.path).result = (r.find method u).result → SurvivesRequest u) := by
  intro q
  obtain ⟨t, hbuild⟩ := hbuilds
  have hconsistent := hreachable.isConsistent
  have htemplate : route.IsTemplate :=
    ⟨hconsistent.trimmed route (List.mem_of_getElem? hlast.stands), hsimple.bracket⟩
  obtain ⟨earlier, first, last, f, hserves⟩ := hconsistent.exists_serves hbuild hlast.stands
  have hdecides := hserves.decides_canonical htemplate hsimple.hasPlainConstraints
  obtain ⟨text, rfl, hspells⟩ :=
    hserves.exists_text hbuild htemplate hsimple.hasPlainConstraints hlast hurl
  have htext : text.head? ≠ some '/' := by
    obtain ⟨hadmits, rfl⟩ := Slot.spells_valuesOf_iff.mp hspells
    exact hsimple.head?_fill htemplate.trimmed hadmits
  obtain ⟨rest, hu, hrest⟩ := hreachable.exists_rest htext
  have hne := hserves.find_ne_none hbuild hdecides hspells hmethod
  have hpath := Request.path_ofTarget_eq_iff hu method headers query body hrest
  refine ⟨fun hsurvives => ?_, hne, fun hplain => ?_, fun hroutes hsame => ?_⟩
  · rw [Request.method_ofTarget, find_upper ⟨t, hbuild⟩, hpath.mpr hsurvives]
  · obtain ⟨found, hfound, hroute⟩ :=
      hserves.find_of_spells hbuild (hserves.plain hplain) hdecides hspells hmethod
    refine ⟨found, hfound, ?_⟩
    rcases hroute with hbefore | ⟨values, -, rfl⟩
    · exact Nat.le_of_lt hbefore
    · exact Nat.le_refl _
  · obtain ⟨found, hfound, -⟩ := hserves.find_of_spells hbuild
      (hserves.plain fun other hother => (hroutes other (List.mem_of_mem_take hother)).2)
      hdecides hspells hmethod
    rcases path_of_same_found hreachable hbuild (fun other hother => (hroutes other hother).1)
      (fun other hother => (hroutes other hother).2) htext hfound (hsame.trans hfound) with
      hequal | hshorter | hlonger
    · exact hpath.mp hequal
    · exact Request.survives_of_append_slash hu method headers query body hrest hshorter
    · have hlength := Request.length_path_ofTarget_le hu method headers query body
      rw [hlonger, String.toList_append, List.length_append] at hlength
      exact absurd hlength (by simp)

/-! ## A router with one route -/

def unconstrained (uri name : String) : Router :=
  fresh.after [.map ["GET"] uri (.value .null), .adjust 0 (.name (some name))]

def unconstrainedRoute (uri name : String) : Route :=
  { Route.make ["GET"] uri (.other .null) with name := some name }

theorem reachable_unconstrained (uri name : String) : (unconstrained uri name).Reachable :=
  (Reachable.new make_fresh).after _

theorem lastNamed_unconstrained (uri name : String) :
    (unconstrained uri name).LastNamed 0 name (unconstrainedRoute uri name) :=
  .of_routes_eq rfl rfl

theorem requested_url_finds_the_same_comments :
    let r := unconstrained "posts/{id}/comments" "posts"
    let q := Request.ofTarget "/posts/7/comments/" "GET" ∅ ∅ []
    (r.url "posts" ⟨[("id", .int 7)]⟩).result = .ok "/posts/7/comments/" ∧
      ∃ found, (r.find q.method q.path).result = .ok (some found) ∧
        (r.find "GET" "/posts/7/comments/").result = .ok (some found) := by
  intro r q
  have hurl : (r.url "posts" ⟨[("id", .int 7)]⟩).result = .ok "/posts/7/comments/" := by decide +kernel
  have hplain : ∀ other ∈ r.routes, other.HasPlainConstraints :=
    List.forall_mem_singleton.mpr fun _ hentry => absurd hentry (List.not_mem_nil)
  obtain ⟨hsame, -, hfound, -⟩ := requested_url_finds_the_same (reachable_unconstrained ..)
    (builds_of_toBool (by decide +kernel)) (lastNamed_unconstrained ..)
    ⟨rfl, by decide, by decide, by decide +kernel⟩ hurl
    (show "GET" ∈ (unconstrainedRoute "posts/{id}/comments" "posts").methods by decide) ∅ ∅ []
  obtain ⟨found, hfind, -⟩ := hfound fun other hother => hplain other (List.mem_of_mem_take hother)
  exact ⟨hurl, found, (hsame ⟨by decide, by decide⟩).trans hfind, hfind⟩

/-- A question mark in a value begins a query, and a blank in front of everything is lost. -/
theorem requested_url_is_cut :
    let r := unconstrained "posts/{id}/comments" "posts"
    let route := unconstrainedRoute "posts/{id}/comments" "posts"
    let q := Request.ofTarget "/posts/a?b/comments/" "GET" ∅ ∅ []
    let s := unconstrained "{word}" "word"
    let p := Request.ofTarget "/ x/" "GET" ∅ ∅ []
    (r.Reachable ∧ r.Builds ∧ '?' ∉ r.basePath.toList ∧ r.LastNamed 0 "posts" route ∧
      route.IsSimple ∧ "GET" ∈ route.methods ∧
      (r.url "posts" ⟨[("id", .text "a?b")]⟩).result = .ok "/posts/a?b/comments/" ∧
      (r.find "GET" "/posts/a?b/comments/").result = .ok (some ⟨0, ⟨⟨[("id", "a?b")]⟩⟩⟩) ∧
      (r.find q.method q.path).result = .ok none) ∧
    (s.url "word" ⟨[("word", .text " x")]⟩).result = .ok "/ x/" ∧
      (s.find "GET" "/ x/").result = .ok (some ⟨0, ⟨⟨[("word", " x")]⟩⟩⟩) ∧
      (s.find p.method p.path).result = .ok (some ⟨0, ⟨⟨[("word", "x")]⟩⟩⟩) := by
  intro r route q s p
  refine ⟨⟨reachable_unconstrained .., builds_of_toBool (by decide +kernel), by decide +kernel,
    lastNamed_unconstrained .., ⟨rfl, by decide, by decide, by decide +kernel⟩, by decide, ?_⟩, ?_⟩
  · decide +kernel
  · decide +kernel

end Router

end HttpRouting
