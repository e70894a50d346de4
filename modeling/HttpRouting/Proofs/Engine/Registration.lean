import HttpRouting.Proofs.Engine.Slot

/-!
# Registering with an engine

A sound engine remembers only patterns that its present types compile in the
same way, so looking a pattern up and compiling it afresh come to the same.
Types with new names and further patterns keep an engine sound.
-/

namespace HttpRouting.Engine

variable {α : Type}

/-- The patterns that an engine remembers or has registered are compiled as its types say. -/
structure IsSound (e : Engine α) : Prop where
  remembered : ∀ pattern compiled, e.compiled.find? pattern = some compiled →
    compileAfresh e.types pattern = .ok compiled
  registered : ∀ entry ∈ e.entries, compileAfresh e.types entry.pattern = .ok entry.compiled

theorem isSound_new (basePath : String) : IsSound ({ basePath := basePath } : Engine α) where
  remembered := by simp
  registered := by simp

/-! ## Types -/

theorem IsSound.addTypes {e : Engine α} (h : e.IsSound) {types : Pairs String}
    (hfresh : ∀ entry ∈ types.entries, e.types.find? entry.1 = none) : (e.addTypes types).IsSound where
  remembered := fun pattern compiled hfound =>
    compileAfresh_of_extends (Pairs.extends_merge hfresh) (h.remembered pattern compiled hfound)
  registered := fun entry hentry =>
    compileAfresh_of_extends (Pairs.extends_merge hfresh) (h.registered entry hentry)

/-! ## Patterns -/

theorem IsSound.compile_of_ok {e : Engine α} (h : e.IsSound) {pattern : String}
    {compiled : CompiledPattern} (hcompile : compileAfresh e.types pattern = .ok compiled) :
    ∃ memory, e.compile pattern = .ok (compiled, { e with compiled := memory }) ∧
      ({ e with compiled := memory } : Engine α).IsSound := by
  rw [Engine.compile]
  cases hfound : e.compiled.find? pattern with
  | some known =>
      have hknown := h.remembered pattern known hfound
      rw [hcompile, Except.ok.injEq] at hknown
      subst hknown
      exact ⟨e.compiled, rfl, h⟩
  | none =>
      refine ⟨e.compiled.insert pattern compiled, by simp only [hcompile]; rfl, ?_, h.registered⟩
      intro other known hother
      simp only [Pairs.find?_insert] at hother
      split at hother
      next heq =>
        rw [Option.some.injEq] at hother
        subst heq hother
        exact hcompile
      next => exact h.remembered other known hother

theorem IsSound.compile_of_error {e : Engine α} (h : e.IsSound) {pattern : String}
    {error : EngineError} (hcompile : compileAfresh e.types pattern = .error error) :
    e.compile pattern = .error error := by
  rw [Engine.compile]
  cases hfound : e.compiled.find? pattern with
  | some known =>
      have hknown := h.remembered pattern known hfound
      rw [hcompile] at hknown
      simp at hknown
  | none =>
      simp only [hcompile]
      rfl

def newEntry (methods : List String) (pattern : String) (compiled : CompiledPattern) (target : α)
    (name : Option String) : Entry α :=
  ⟨methods.map Text.upper, pattern, compiled, target, name⟩

def rename (named : Pairs (Entry α)) (entry : Entry α) : Pairs (Entry α) :=
  match entry.name with
  | none => named
  | some name => named.insert name entry

/-- What is left of an engine when its memory is left out. -/
structure Registers (e next : Engine α) (entry : Entry α) : Prop where
  sound : next.IsSound
  basePath : next.basePath = e.basePath
  types : next.types = e.types
  entries : next.entries = e.entries ++ [entry]
  named : next.named = rename e.named entry

theorem IsSound.map_of_ok {e : Engine α} (h : e.IsSound) {pattern : String}
    {compiled : CompiledPattern} (hcompile : compileAfresh e.types pattern = .ok compiled)
    (methods : List String) (target : α) (name : Option String) :
    ∃ next, e.map methods pattern target name = .ok next ∧
      e.Registers next (newEntry methods pattern compiled target name) := by
  obtain ⟨memory, hmemory, hsound⟩ := h.compile_of_ok hcompile
  rw [Engine.map, hmemory]
  refine ⟨_, rfl, ⟨hsound.remembered, ?_⟩, rfl, rfl, rfl, ?_⟩
  · intro entry hentry
    rcases List.mem_append.mp hentry with hold | hnew
    · exact hsound.registered entry hold
    · rw [List.mem_singleton] at hnew
      subst hnew
      exact hcompile
  · cases name <;> rfl

theorem IsSound.map_of_error {e : Engine α} (h : e.IsSound) {pattern : String}
    {error : EngineError} (hcompile : compileAfresh e.types pattern = .error error)
    (methods : List String) (target : α) (name : Option String) :
    e.map methods pattern target name = .error error := by
  rw [Engine.map, h.compile_of_error hcompile]
  rfl

theorem IsSound.exists_of_map {e next : Engine α} (h : e.IsSound) {methods : List String}
    {pattern : String} {target : α} {name : Option String}
    (hmap : e.map methods pattern target name = .ok next) :
    ∃ compiled, compileAfresh e.types pattern = .ok compiled ∧
      e.Registers next (newEntry methods pattern compiled target name) := by
  cases hcompile : compileAfresh e.types pattern with
  | error error => simp [h.map_of_error hcompile] at hmap
  | ok compiled =>
      obtain ⟨other, hother, hregisters⟩ := h.map_of_ok hcompile methods target name
      rw [hmap, Except.ok.injEq] at hother
      subst hother
      exact ⟨compiled, rfl, hregisters⟩

theorem types_of_map {e next : Engine α} {methods : List String} {pattern : String}
    {target : α} {name : Option String} (h : e.map methods pattern target name = .ok next) :
    next.types = e.types := by
  unfold Engine.map at h
  cases hcompile : e.compile pattern with
  | error error => simp [hcompile, bind, Except.bind] at h
  | ok result =>
      obtain ⟨compiled, middle⟩ := result
      have hmiddle : middle.types = e.types := by
        unfold Engine.compile at hcompile
        split at hcompile
        next => simp_all
        next =>
          cases hafresh : compileAfresh e.types pattern with
          | error error => simp [hafresh, bind, Except.bind] at hcompile
          | ok fresh =>
              simp only [hafresh, bind, Except.bind, pure, Except.pure, Except.ok.injEq,
                Prod.mk.injEq] at hcompile
              rw [← hcompile.2]
      simp only [hcompile, bind, Except.bind, pure, Except.pure, Except.ok.injEq] at h
      rw [← h, ← hmiddle]

/-! ## First hits -/

theorem firstHit_append (method : String) (rest : List Char) (first second : List (Entry α)) :
    firstHit method rest (first ++ second) =
      match firstHit method rest first with
      | .ok none => firstHit method rest second
      | answer => answer := by
  induction first with
  | nil => rfl
  | cons entry entries ih =>
      simp only [List.cons_append, firstHit, ih]
      cases entry.fits? method rest with
      | error error => rfl
      | ok fit =>
          cases fit with
          | none => rfl
          | some cursor =>
              simp only [bind, Except.bind]
              cases entry.hit cursor <;> rfl

def Entry.form (entry : Entry α) : Entry Unit := ⟨entry.methods, "", entry.compiled, (), none⟩

theorem firstHit_map_form (method : String) (rest : List Char) (entries : List (Entry α)) :
    firstHit method rest (entries.map Entry.form) =
      (firstHit method rest entries).map (Option.map fun hit => ⟨(), hit.params, none⟩) := by
  induction entries with
  | nil => rfl
  | cons entry entries ih =>
      have hfits : entry.form.fits? method rest = entry.fits? method rest := rfl
      simp only [List.map_cons, firstHit, hfits, ih]
      cases entry.fits? method rest with
      | error error => rfl
      | ok fit =>
          cases fit with
          | none => rfl
          | some cursor =>
              simp only [bind, Except.bind, Entry.hit, Entry.form]
              cases (entry.compiled.expression.captures cursor).mapM
                (paramOf entry.compiled.params) <;> rfl

theorem exists_entry_of_firstHit {method : String} {rest : List Char} {entries : List (Entry α)}
    {hit : Hit α} (h : firstHit method rest entries = .ok (some hit)) :
    ∃ entry ∈ entries, ∃ cursor, entry.fits? method rest = .ok (some cursor) ∧
      entry.hit cursor = .ok hit := by
  induction entries with
  | nil => simp [firstHit] at h
  | cons entry entries ih =>
      rw [firstHit] at h
      cases hfits : entry.fits? method rest with
      | error error => simp [hfits, bind, Except.bind] at h
      | ok fit =>
          cases fit with
          | none =>
              simp only [hfits, bind, Except.bind] at h
              obtain ⟨other, hother, hhit⟩ := ih h
              exact ⟨other, List.mem_cons_of_mem _ hother, hhit⟩
          | some cursor =>
              simp only [hfits, bind, Except.bind] at h
              refine ⟨entry, List.mem_cons_self, cursor, hfits, ?_⟩
              cases hhit : entry.hit cursor with
              | error error => simp [hhit, Except.map] at h
              | ok found => simpa [hhit, Except.map] using h

theorem target_of_hit {entry : Entry α} {cursor : Regex.Cursor} {hit : Hit α}
    (h : entry.hit cursor = .ok hit) : hit.target = entry.target := by
  unfold Entry.hit at h
  cases hparams : (entry.compiled.expression.captures cursor).mapM
      (paramOf entry.compiled.params) with
  | error error => simp [hparams, bind, Except.bind] at h
  | ok params =>
      simp only [hparams, bind, Except.bind, pure, Except.pure, Except.ok.injEq] at h
      rw [← h]

end HttpRouting.Engine
