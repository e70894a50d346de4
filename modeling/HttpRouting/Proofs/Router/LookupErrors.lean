import HttpRouting.Proofs.Engine.Failing
import HttpRouting.Proofs.Router.Lookup

/-!
# How lookups fail

A lookup finds a route or none, as long as every group that takes part in a
match belongs to a block.  A constraint that names a group of its own makes the
lookup fail when that group takes part in the match of the first route that
fits, though the table was built.
-/

namespace HttpRouting

open Engine (FirstFails remainder?)
open Regex (HasPossessiveMark groupOpening)

/-- The first entry that does not pass over the path below the base path fails on it. -/
def Table.FindFails (t : Table) (method path : String) (error : EngineError) : Prop :=
  ∃ rest, remainder? t.engine.basePath.toList path.toList = some rest ∧
    FirstFails (Text.upper method) rest error t.engine.entries

theorem Table.find_of_findFails {t : Table} {method path : String} {error : EngineError}
    (h : t.FindFails method path error) : t.find method path = .error error := by
  obtain ⟨rest, hrest, hfails⟩ := h
  rw [find, Engine.lookup, hrest]
  dsimp only
  rw [Engine.firstHit_of_firstFails hfails]
  rfl

theorem Table.find_cases (t : Table) (method path : String) :
    (∃ answer, t.find method path = .ok answer) ∨ ∃ error, t.FindFails method path error := by
  rw [find, Engine.lookup]
  cases hrest : remainder? t.engine.basePath.toList path.toList with
  | none => exact .inl ⟨none, rfl⟩
  | some rest =>
      rcases Engine.firstHit_cases (Text.upper method) rest t.engine.entries with
        ⟨answer, hanswer⟩ | ⟨error, hfails⟩
      · exact .inl ⟨_, by dsimp only; rw [hanswer]; rfl⟩
      · exact .inr ⟨error, rest, hrest, hfails⟩

namespace Router

variable {r : Router} {t : Table}

/--
A lookup answers, or it fails.  It fails just if the first pattern that does not
pass over the path below the base path matches it with a group that ends before
it begins, or with one that took part and belongs to no block.  Then some
constraint has a plus behind a mark of repetition, or it opens a group with that
name; so without such constraints every lookup answers.
-/
theorem find_fails_on_foreign_groups (hreachable : r.Reachable) (hbuild : r.build.result = .ok t)
    (method path : String) :
    ((∃ answer, (r.find method path).result = .ok answer) ∨
      ∃ error, (r.find method path).result = .error (.engine error)) ∧
    ∀ error,
      ((r.find method path).result = .error (.engine error) ↔ t.FindFails method path error) ∧
      ((r.find method path).result = .error (.engine error) →
        ∃ route ∈ r.routes, ∃ constraint ∈ route.constraints.entries,
          error = .regex .crossedGroup ∧ HasPossessiveMark constraint.2.toList ∨
          ∃ group, error = .foreignGroup group ∧
            groupOpening group.toList <:+: constraint.2.toList) := by
  have h := hreachable.isConsistent
  have hfails {error : EngineError} (hfails : t.FindFails method path error) :
      (r.find method path).result = .error (.engine error) := by
    rw [find_of_build hbuild, Table.find_of_findFails hfails]
    rfl
  have hcases : (∃ answer, (r.find method path).result = .ok answer) ∨
      ∃ error, t.FindFails method path error := by
    refine (t.find_cases method path).imp_left fun ⟨answer, hanswer⟩ => ⟨answer, ?_⟩
    rw [find_of_build hbuild, hanswer]
    rfl
  have hiff (error : EngineError) : (r.find method path).result = .error (.engine error) ↔
      t.FindFails method path error := by
    refine ⟨fun hresult => ?_, hfails⟩
    rcases hcases with ⟨answer, hanswer⟩ | ⟨other, hother⟩
    · rw [hanswer] at hresult
      simp at hresult
    · have hsame := (hfails hother).symm.trans hresult
      rw [Except.error.injEq, RouterError.engine.injEq] at hsame
      rwa [← hsame]
  refine ⟨hcases.imp_right fun ⟨error, hother⟩ => ⟨error, hfails hother⟩, fun error =>
    ⟨hiff error, fun hresult => ?_⟩⟩
  obtain ⟨rest, -, hfirst⟩ := (hiff error).mp hresult
  obtain ⟨entry, hentry, hentryFails⟩ := hfirst.exists_entry
  obtain ⟨regex, ⟨type, hdefault⟩ | ⟨route, hroute, constraint, hconstraint, rfl⟩, hregex⟩ :=
    hentryFails.exists_regex (h.isSound hbuild) hentry fun _ _ => h.regex_of_type hbuild
  · obtain ⟨hmark, hopening⟩ := Engine.not_marked_of_defaultTypes hdefault
    rcases hregex with ⟨-, hpossessive⟩ | ⟨group, -, hgroup⟩
    · exact absurd hpossessive hmark
    · exact absurd hgroup (hopening _)
  · exact ⟨route, hroute, constraint, hconstraint, hregex⟩

/-- A group that a constraint names takes part in the match of digits, but not in that of letters. -/
theorem find_fails_on_foreign_groups_year :
    let r := single "posts/{id}" "posts" "id" "(?P<year>[0-9]+)|[a-z]+"
    ∃ t, r.build.result = .ok t ∧
      (r.find "GET" "/posts/ab/").result = .ok (some ⟨0, ⟨⟨[("id", "ab")]⟩⟩⟩) ∧
      t.FindFails "GET" "/posts/12/" (.foreignGroup "year") ∧
      ∃ route ∈ r.routes, ∃ constraint ∈ route.constraints.entries,
        EngineError.foreignGroup "year" = .regex .crossedGroup ∧
          HasPossessiveMark constraint.2.toList ∨
        ∃ group, EngineError.foreignGroup "year" = .foreignGroup group ∧
          groupOpening group.toList <:+: constraint.2.toList := by
  intro r
  obtain ⟨t, hbuild⟩ : r.Builds := builds_of_toBool (by decide +kernel)
  have hfails : (r.find "GET" "/posts/12/").result = .error (.engine (.foreignGroup "year")) := by
    decide +kernel
  obtain ⟨hiff, hconstraint⟩ :=
    (find_fails_on_foreign_groups (reachable_single ..) hbuild "GET" "/posts/12/").2
      (.foreignGroup "year")
  exact ⟨t, hbuild, by decide +kernel, hiff.mp hfails, hconstraint hfails⟩

/-- A table is built of a constraint that names a group, and a path that fits it finds nothing. -/
theorem find_fails_on_named_constraint :
    let r := single "posts/{id}" "posts" "id" "(?P<year>[0-9]+)"
    r.Reachable ∧ r.Builds ∧
      (r.find "GET" "/posts/12/").result = .error (.engine (.foreignGroup "year")) := by
  intro r
  exact ⟨reachable_single .., builds_of_toBool (by decide +kernel), by decide +kernel⟩

end Router

end HttpRouting
