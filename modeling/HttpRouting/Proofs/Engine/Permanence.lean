import HttpRouting.Engine.Call
import HttpRouting.Proofs.Engine.Failing
import HttpRouting.Proofs.Engine.Writing

/-!
# What stays in an engine

The types of an engine may be bound anew at any time.  But the pattern of an
entry is remembered as it was compiled when the entry was registered, and the
types of a pattern that is remembered stay bound, to whatever it may be.  So a
search never compiles anything, what it once found it finds ever after, and
generating always finds the types that it looks for.
-/

namespace HttpRouting

/-! ## Bound types -/

theorem Pairs.exists_find?_merge {α : Type} {p : Pairs α} {key : String} {value : α}
    (h : p.find? key = some value) (q : Pairs α) : ∃ other, (p.merge q).find? key = some other := by
  rw [merge, find?_insertAll, h]
  cases valueOf? key q.entries.reverse with
  | none => exact ⟨value, rfl⟩
  | some other => exact ⟨other, rfl⟩

namespace Engine

open Slot

variable {α : Type}

theorem exists_resolve?_merge {types : Pairs String} (more : Pairs String)
    {pieces : List Pattern.Piece} {slots : List Slot} (h : resolve? types pieces = some slots) :
    ∃ slots, resolve? (types.merge more) pieces = some slots := by
  induction pieces generalizing slots with
  | nil => exact ⟨[], rfl⟩
  | cons piece rest ih =>
      cases piece with
      | literal c =>
          obtain ⟨slots, hslots, -⟩ := Option.map_eq_some_iff.mp h
          obtain ⟨others, hothers⟩ := ih hslots
          exact ⟨.literal c :: others, by rw [resolve?, hothers]; rfl⟩
      | block b =>
          obtain ⟨regex, hregex, h⟩ := Option.bind_eq_some_iff.mp h
          obtain ⟨slots, hslots, -⟩ := Option.map_eq_some_iff.mp h
          obtain ⟨others, hothers⟩ := ih hslots
          obtain ⟨other, hother⟩ := Pairs.exists_find?_merge hregex more
          exact ⟨.hole b.lead b.param other b.optional :: others, by rw [resolve?, hother, hothers]; rfl⟩

/-! ## Settled engines -/

/-- The entries are remembered as they are, and the types of all that is remembered are bound. -/
structure IsSettled (e : Engine α) : Prop where
  remembered : ∀ entry ∈ e.entries, e.compiled.find? entry.pattern = some entry.compiled
  bound : ∀ pattern compiled, e.compiled.find? pattern = some compiled →
    ∃ slots, resolve? e.types (Pattern.scan pattern.toList) = some slots
  named : ∀ name entry, e.named.find? name = some entry → entry ∈ e.entries

theorem isSettled_new (basePath : String) : IsSettled ({ basePath := basePath } : Engine α) where
  remembered := by simp
  bound := by simp
  named := by simp

variable {e next : Engine α}

theorem IsSettled.addTypes (h : e.IsSettled) (types : Pairs String) : (e.addTypes types).IsSettled where
  remembered := h.remembered
  bound := fun pattern compiled hfound =>
    have ⟨_, hslots⟩ := h.bound pattern compiled hfound
    exists_resolve?_merge types hslots
  named := h.named

theorem IsSettled.compile (h : e.IsSettled) {pattern : String} {compiled : CompiledPattern}
    (hcompile : e.compile pattern = .ok (compiled, next)) :
    ∃ memory, next = { e with compiled := memory } ∧ next.IsSettled ∧
      memory.find? pattern = some compiled := by
  rw [Engine.compile] at hcompile
  cases hfound : e.compiled.find? pattern with
  | some known =>
      simp only [hfound, Except.ok.injEq, Prod.mk.injEq] at hcompile
      obtain ⟨rfl, rfl⟩ := hcompile
      exact ⟨e.compiled, rfl, h, hfound⟩
  | none =>
      cases hafresh : compileAfresh e.types pattern with
      | error error => simp [hfound, hafresh, bind, Except.bind] at hcompile
      | ok fresh =>
          simp only [hfound, hafresh, bind, Except.bind, pure, Except.pure, Except.ok.injEq,
            Prod.mk.injEq] at hcompile
          obtain ⟨rfl, rfl⟩ := hcompile
          have hkept {other : String} {known : CompiledPattern} (hother : other ≠ pattern) :
              (e.compiled.insert pattern fresh).find? other = some known ↔
                e.compiled.find? other = some known := by
            rw [Pairs.find?_insert, if_neg hother]
          refine ⟨_, rfl, ⟨fun entry hentry => ?_, fun other known hother => ?_, h.named⟩, ?_⟩
          · have hentry := h.remembered entry hentry
            refine (hkept fun heq => ?_).mpr hentry
            rw [heq, hfound] at hentry
            simp at hentry
          · by_cases heq : other = pattern
            · obtain ⟨slots, hslots, -⟩ := exists_slots_of_compileAfresh hafresh
              exact ⟨slots, heq ▸ hslots⟩
            · exact h.bound other known ((hkept heq).mp hother)
          · rw [Pairs.find?_insert, if_pos rfl]

theorem IsSettled.map (h : e.IsSettled) {methods : List String} {pattern : String} {target : α}
    {name : Option String} (hmap : e.map methods pattern target name = .ok next) :
    next.IsSettled ∧ next.basePath = e.basePath ∧
      ∃ compiled, next.entries = e.entries ++ [newEntry methods pattern compiled target name] := by
  cases hcompile : e.compile pattern with
  | error error => simp [Engine.map, hcompile, bind, Except.bind] at hmap
  | ok result =>
      obtain ⟨compiled, middle⟩ := result
      obtain ⟨memory, rfl, hsettled, hfound⟩ := h.compile hcompile
      simp only [Engine.map, hcompile, bind, Except.bind, pure, Except.pure, Except.ok.injEq] at hmap
      subst hmap
      refine ⟨⟨fun entry hentry => ?_, hsettled.bound, fun other entry hentry => ?_⟩, rfl, compiled, rfl⟩
      · rcases List.mem_append.mp hentry with hold | hnew
        · exact hsettled.remembered entry hold
        · obtain rfl := List.mem_singleton.mp hnew
          exact hfound
      · have hcases : e.named.find? other = some entry ∨
            entry = newEntry methods pattern compiled target name := by
          cases name with
          | none => exact .inl hentry
          | some name =>
              simp only [Pairs.find?_insert] at hentry
              split at hentry
              next => exact .inr (Option.some.inj hentry).symm
              next => exact .inl hentry
        rcases hcases with hold | rfl
        · exact List.mem_append_left _ (hsettled.named other entry hold)
        · exact List.mem_append_right _ List.mem_cons_self

/-! ## Searching -/

theorem searchFrom_eq {entries : List (Entry α)}
    (h : ∀ entry ∈ entries, e.compiled.find? entry.pattern = some entry.compiled)
    (method : String) (rest : List Char) :
    searchFrom method rest entries e = (firstHit method rest entries, e) := by
  induction entries with
  | nil => rfl
  | cons entry entries ih =>
      obtain ⟨hentry, hentries⟩ := List.forall_mem_cons.mp h
      have hcompile : e.compile entry.pattern = .ok (entry.compiled, e) := by
        rw [Engine.compile, hentry]
      rw [searchFrom, firstHit]
      split
      next hmethod =>
        simp only [hcompile]
        cases entry.fits? method rest with
        | error error => rfl
        | ok fit =>
            cases fit with
            | none => exact ih hentries
            | some cursor => rfl
      next hmethod =>
        rw [ih hentries, Entry.fits?, if_neg hmethod]
        rfl

theorem IsSettled.search (h : e.IsSettled) (path method : String) :
    e.search path method = (e.lookup path method, e) := by
  rw [Engine.search, lookup]
  cases remainder? e.basePath.toList path.toList with
  | none => rfl
  | some rest => exact searchFrom_eq h.remembered _ rest

/-! ## Calls -/

theorem IsSettled.perform_cases (h : e.IsSettled) (call : Call α) :
    (call.perform e).2 = e ∨ (∃ types, (call.perform e).2 = e.addTypes types) ∨
      ∃ methods pattern target name, call = .map methods pattern target name ∧
        e.map methods pattern target name = .ok (call.perform e).2 := by
  cases call with
  | addTypes types => exact .inr (.inl ⟨types, rfl⟩)
  | map methods pattern target name =>
      cases hmap : e.map methods pattern target name with
      | error error => exact .inl (by simp [Call.perform, hmap])
      | ok next =>
          exact .inr (.inr ⟨methods, pattern, target, name, rfl, by simp [Call.perform, hmap]⟩)
  | search path method => exact .inl (by simp [Call.perform, h.search])
  | generate name params => exact .inl rfl

theorem IsSettled.perform (h : e.IsSettled) (call : Call α) : (call.perform e).2.IsSettled := by
  rcases h.perform_cases call with heq | ⟨types, heq⟩ | ⟨_, _, _, _, -, hmap⟩
  · rwa [heq]
  · rw [heq]
    exact h.addTypes types
  · exact (h.map hmap).1

theorem IsSettled.entries_perform (h : e.IsSettled) (call : Call α) :
    (call.perform e).2.basePath = e.basePath ∧
      ((call.perform e).2.entries = e.entries ∨
        ∃ methods pattern target name compiled, call = .map methods pattern target name ∧
          e.map methods pattern target name = .ok (call.perform e).2 ∧
          (call.perform e).2.entries =
            e.entries ++ [newEntry methods pattern compiled target name]) := by
  rcases h.perform_cases call with heq | ⟨types, heq⟩ | ⟨methods, pattern, target, name, hcall, hmap⟩
  · rw [heq]
    exact ⟨rfl, .inl rfl⟩
  · rw [heq]
    exact ⟨rfl, .inl rfl⟩
  · obtain ⟨-, hbase, compiled, hentries⟩ := h.map hmap
    exact ⟨hbase, .inr ⟨methods, pattern, target, name, compiled, hcall, hmap, hentries⟩⟩

theorem Reachable.isSettled (h : e.Reachable) : e.IsSettled := by
  induction h with
  | new basePath => exact isSettled_new basePath
  | perform call _ ih => exact ih.perform call

/-- A call in a run succeeds in registering the entry. -/
def RegistersDuring (e : Engine α) (calls : List (Call α)) (entry : Entry α) : Prop :=
  ∃ before methods pattern after next,
    calls = before ++ .map methods pattern entry.target entry.name :: after ∧
      (e.after before).map methods pattern entry.target entry.name = .ok next ∧
      next.entries = (e.after before).entries ++ [entry]

theorem IsSettled.after (h : e.IsSettled) (calls : List (Call α)) :
    (e.after calls).basePath = e.basePath ∧ ∃ added, (e.after calls).entries = e.entries ++ added ∧
      ∀ entry ∈ added, e.RegistersDuring calls entry := by
  induction calls generalizing e with
  | nil => exact ⟨rfl, [], (List.append_nil _).symm, by simp⟩
  | cons call rest ih =>
      obtain ⟨hbase, added, hadded, hduring⟩ := ih (h.perform call)
      have hlater : ∀ entry ∈ added, e.RegistersDuring (call :: rest) entry := by
        intro entry hentry
        obtain ⟨before, methods, pattern, after, next, rfl, hmap⟩ := hduring entry hentry
        exact ⟨call :: before, methods, pattern, after, next, rfl, hmap⟩
      obtain ⟨hsame, hstay | ⟨methods, pattern, target, name, compiled, rfl, hmap, hgrow⟩⟩ :=
        h.entries_perform call
      · rw [hstay] at hadded
        exact ⟨hbase.trans hsame, added, hadded, hlater⟩
      · rw [hgrow, List.append_assoc] at hadded
        exact ⟨hbase.trans hsame, _, hadded,
          List.forall_mem_cons.mpr ⟨⟨[], methods, pattern, rest, _, rfl, hmap, hgrow⟩, hlater⟩⟩

/-! ## Hits -/

/-- The entry by itself finds something under a path. -/
def Entry.Finds (entry : Entry α) (basePath path method : String) (hit : Hit α) : Prop :=
  ∃ rest cursor, remainder? basePath.toList path.toList = some rest ∧
    entry.fits? (Text.upper method) rest = .ok (some cursor) ∧ entry.hit cursor = .ok hit

theorem lookup_ne_pattern (e : Engine α) (path method : String) (error : PatternError) :
    e.lookup path method ≠ .error (.pattern error) := by
  rw [lookup]
  cases remainder? e.basePath.toList path.toList with
  | none => simp
  | some rest =>
      rcases firstHit_cases (Text.upper method) rest e.entries with ⟨answer, hanswer⟩ | ⟨error', hfails⟩
      · simp [hanswer]
      · simp only [firstHit_of_firstFails hfails]
        obtain ⟨entry, -, hfails⟩ := hfails.exists_entry
        cases hfails <;> simp

section

variable {added : List (Entry α)} {path method : String} {hit : Hit α}
  (hbase : next.basePath = e.basePath) (hentries : next.entries = e.entries ++ added)

include hbase hentries

theorem lookup_of_lookup_eq_some (h : e.lookup path method = .ok (some hit)) :
    next.lookup path method = .ok (some hit) := by
  rw [lookup] at h ⊢
  rw [hbase, hentries]
  cases hrest : remainder? e.basePath.toList path.toList with
  | none => simp [hrest] at h
  | some rest =>
      rw [hrest] at h
      exact firstHit_append_of_some h

theorem exists_finds_of_lookup_eq_none (h : e.lookup path method = .ok none)
    (hhit : next.lookup path method = .ok (some hit)) :
    ∃ entry ∈ added, entry.Finds e.basePath path method hit := by
  rw [lookup] at h hhit
  rw [hbase, hentries] at hhit
  cases hrest : remainder? e.basePath.toList path.toList with
  | none => simp [hrest] at hhit
  | some rest =>
      simp only [hrest] at h hhit
      rw [firstHit_append_of_none h] at hhit
      obtain ⟨entry, hentry, cursor, hfits, hhit⟩ := exists_entry_of_firstHit hhit
      exact ⟨entry, hentry, rest, cursor, hrest, hfits, hhit⟩

end

/-! ## Generating -/

theorem exists_type_of_mem_regexes {types : Pairs String} {pieces : List Pattern.Piece}
    {slots : List Slot} (hslots : resolve? types pieces = some slots) {regex : String}
    (h : regex ∈ regexes slots) : ∃ type, types.find? type = some regex :=
  forall_regexes_of_resolve? (P := fun regex => ∃ type, types.find? type = some regex)
    (fun type _ htype => ⟨type, htype⟩) hslots regex h

theorem IsSettled.exists_slots_of_named (h : e.IsSettled) {name : String} {entry : Entry α}
    (hnamed : e.named.find? name = some entry) :
    ∃ slots, resolve? e.types (Pattern.scan entry.pattern.toList) = some slots ∧
      ∀ params, e.generate name params =
        (Slot.write name params slots).map (e.basePath ++ .ofList ·) := by
  obtain ⟨slots, hslots⟩ := h.bound _ _ (h.remembered entry (h.named name entry hnamed))
  refine ⟨slots, hslots, fun params => ?_⟩
  simp only [generate, hnamed, fillPieces_of_resolve? hslots]
  cases Slot.write name params slots <;> rfl

/--
What an engine does not lose, whatever is done to it.  A search meets no
pattern error.  A hit stays the same whatever is called afterwards, and one
that comes after there was none is found by an entry that was registered in
between.  The types that generating asks for are always bound: it gives a URL,
or a value is missing or does not fit, or the expression of a block fails, by
itself or on its value; the latter only if it has a possessive repetition.
-/
theorem hits_are_permanent {e : Engine α} (h : e.Reachable) :
    (∀ path method error, (e.search path method).1 ≠ .error (.pattern error)) ∧
    (∀ path method hit calls, (e.search path method).1 = .ok (some hit) →
      ((e.after calls).search path method).1 = .ok (some hit)) ∧
    (∀ path method hit calls, (e.search path method).1 = .ok none →
      ((e.after calls).search path method).1 = .ok (some hit) →
        ∃ entry, e.RegistersDuring calls entry ∧ entry.Finds e.basePath path method hit) ∧
    ∀ name entry, e.named.find? name = some entry →
      ∃ slots, resolve? e.types (Pattern.scan entry.pattern.toList) = some slots ∧ ∀ params,
        ((∃ url, e.generate name params = .ok url) ∨
          (∃ param, e.generate name params = .error (.pattern (.missingValue name param)) ∨
            ∃ value, e.generate name params = .error (.pattern (.unfitValue name param value))) ∨
          ∃ cause, e.generate name params = .error (.regex cause)) ∧
        ∀ cause, (e.generate name params = .error (.regex cause) ↔
            Slot.Fails params cause slots) ∧
          (Slot.Fails params cause slots → ∃ regex ∈ Slot.regexes slots,
            (∃ type, e.types.find? type = some regex) ∧
              (Regex.Expression.read regex.toList = .error cause ∨
                cause = .crossedGroup ∧ Regex.Expression.NeedsTrail regex)) := by
  have hsettled := h.isSettled
  refine ⟨fun path method error => ?_, fun path method hit calls hhit => ?_,
    fun path method hit calls hnone hhit => ?_, fun name entry hnamed => ?_⟩
  · rw [hsettled.search]
    exact lookup_ne_pattern e path method error
  · rw [hsettled.search] at hhit
    rw [(h.after calls).isSettled.search]
    obtain ⟨hbase, added, hadded, -⟩ := hsettled.after calls
    exact lookup_of_lookup_eq_some hbase hadded hhit
  · rw [hsettled.search] at hnone
    rw [(h.after calls).isSettled.search] at hhit
    obtain ⟨hbase, added, hadded, hduring⟩ := hsettled.after calls
    obtain ⟨entry, hentry, hfinds⟩ := exists_finds_of_lookup_eq_none hbase hadded hnone hhit
    exact ⟨entry, hduring entry hentry, hfinds⟩
  · obtain ⟨slots, hslots, hgenerate⟩ := hsettled.exists_slots_of_named hnamed
    refine ⟨slots, hslots, fun params => ⟨?_, fun cause => ⟨⟨fun herror => ?_, fun hfails => ?_⟩,
      fun hfails => ?_⟩⟩⟩
    · rw [hgenerate]
      cases hwrite : Slot.write name params slots with
      | ok text => exact .inl ⟨_, rfl⟩
      | error error =>
          rcases Slot.fails_of_write hwrite with ⟨error, rfl⟩ | ⟨cause, rfl, -⟩
          · obtain ⟨param, rfl | ⟨value, rfl⟩⟩ := Slot.pattern_of_write hwrite
            · exact .inr (.inl ⟨param, .inl rfl⟩)
            · exact .inr (.inl ⟨param, .inr ⟨value, rfl⟩⟩)
          · exact .inr (.inr ⟨cause, rfl⟩)
    · rw [hgenerate] at herror
      cases hwrite : Slot.write name params slots with
      | ok text => simp [hwrite, Except.map] at herror
      | error error =>
          rw [hwrite] at herror
          obtain rfl := Except.error.inj herror
          obtain ⟨other, hother⟩ | ⟨cause', hcause, hfails⟩ := Slot.fails_of_write hwrite
          · simp at hother
          · obtain rfl := EngineError.regex.inj hcause
            exact hfails
    · rw [hgenerate, Slot.write_of_fails name hfails]
      rfl
    · obtain ⟨lead, param, regex, optional, value, hmem, -, hfails⟩ := hfails.exists_hole
      have hregex : regex ∈ Slot.regexes slots := List.mem_filterMap.mpr ⟨_, hmem, rfl⟩
      refine ⟨regex, hregex, exists_type_of_mem_regexes hslots hregex, ?_⟩
      cases hfails with
      | unreadable hread => exact .inl hread
      | crosses hcrosses => exact .inr ⟨rfl, hcrosses.needsTrail⟩

/-- A hit survives that its type is bound anew and its name given away, and that registering fails. -/
theorem hits_are_permanent_posts :
    let e := ({ basePath := "/" } : Engine String).after
      [.addTypes (.ofList [("word", "[a-z]+")]), .map ["get"] "posts/[word:id]/" "first" (some "posts")]
    let later := e.after [.addTypes (.ofList [("word", "[0-9]+")]),
      .map ["get"] "posts/[none:id]/" "second" none, .map ["get"] "posts/[:id]/" "third" (some "posts")]
    (later.search "/posts/ab/" "get").1.map (Option.map fun hit => (hit.target, hit.params)) =
      .ok (some ("first", .ofList [("id", "ab")])) := by
  intro e later
  have hreachable : e.Reachable := (Reachable.new "/").after _
  have hfirst : (e.search "/posts/ab/" "get").1.map
      (Option.map fun hit => (hit.target, hit.params)) =
        .ok (some ("first", .ofList [("id", "ab")])) := by decide +kernel
  cases hsearch : (e.search "/posts/ab/" "get").1 with
  | error error => simp [hsearch, Except.map] at hfirst
  | ok answer =>
      cases answer with
      | none => simp [hsearch, Except.map] at hfirst
      | some hit =>
          rw [hsearch] at hfirst
          rw [(hits_are_permanent hreachable).2.1 _ _ hit _ hsearch]
          exact hfirst

/-- The value fits, and the URL would be found, but the match that says so has a crossed group. -/
theorem generate_fails_on_crossed_group :
    let e := ({ basePath := "/" } : Engine String).after
      [.addTypes (.ofList [("word", "(?:(a)|b*)++")]),
        .map ["get"] "posts/[word:id]/" "first" (some "posts")]
    e.Reachable ∧ (e.named.find? "posts").isSome = true ∧
      (∀ type regex, e.types.find? type = some regex →
        (Regex.Expression.read regex.toList).toBool = true) ∧
      e.generate "posts" ⟨[("id", .text "ab")]⟩ = .error (.regex .crossedGroup) := by
  intro e
  have htypes : ∀ entry ∈ e.types.entries, (Regex.Expression.read entry.2.toList).toBool = true := by
    decide +kernel
  have hknown : (e.named.find? "posts").isSome = true := by decide +kernel
  have hfails : e.generate "posts" ⟨[("id", .text "ab")]⟩ = .error (.regex .crossedGroup) := by
    decide +kernel
  have hreachable : e.Reachable := (Reachable.new "/").after _
  have hreads (type regex : String) (htype : e.types.find? type = some regex) :
      (Regex.Expression.read regex.toList).toBool = true :=
    htypes (type, regex) (Pairs.mem_of_find? htype)
  exact ⟨hreachable, hknown, hreads, hfails⟩

end Engine

end HttpRouting
