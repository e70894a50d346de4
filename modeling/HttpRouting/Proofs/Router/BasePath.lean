import HttpRouting.Proofs.Path
import HttpRouting.Proofs.Router.Calls

/-!
# Base paths

The base path of a router begins and ends with a slash, and with no more than
one at its end.  So a path has something below it, or is the base path without
its final slash, or does not belong to the router at all.
-/

namespace HttpRouting

open Engine (remainder? trimFinalSlashes)

/-! ## Normal base paths -/

theorem Engine.trimFinalSlashes_append {s : List Char} (h : s.getLast? ≠ some '/') :
    trimFinalSlashes (s ++ ['/']) = s := by
  rw [trimFinalSlashes, List.reverse_append, List.reverse_singleton, List.singleton_append,
    List.dropWhile_cons_of_pos (by simp)]
  cases hlast : s.reverse with
  | nil => rw [List.reverse_eq_nil_iff.mp hlast]; rfl
  | cons c t =>
      have hc : c ≠ '/' := by
        rintro rfl
        refine h ?_
        rw [← List.head?_reverse, hlast, List.head?_cons]
      rw [List.dropWhile_cons_of_neg (by simpa using hc), ← hlast, List.reverse_reverse]

theorem Path.exists_front (path : String) :
    ∃ front, (normalizeBase path).toList = front ++ ['/'] ∧ front.getLast? ≠ some '/' := by
  rw [normalizeBase_eq]
  split
  next => exact ⟨[], rfl, by simp⟩
  next hne =>
    refine ⟨'/' :: (trimSlashes path).toList, by simp, fun hlast => ?_⟩
    have htrimmed := isTrimmed_trimSlashes path
    cases hchars : (trimSlashes path).toList with
    | nil => exact hne (String.toList_eq_nil_iff.mp hchars)
    | cons c rest =>
        rw [hchars, List.getLast?_cons_cons, ← hchars] at hlast
        exact absurd (htrimmed.last _ hlast) (by decide)

/-! ## What is below a base path -/

theorem Engine.remainder?_eq_some_iff {front path rest : List Char} (h : front.getLast? ≠ some '/') :
    remainder? (front ++ ['/']) path = some rest ↔
      path = front ++ '/' :: rest ∨ path = front ∧ rest = [] := by
  rw [remainder?, trimFinalSlashes_append h]
  cases hprefix : (front ++ ['/']).isPrefixOf? path with
  | some below =>
      rw [List.isPrefixOf?_eq_some_iff_append_eq] at hprefix
      subst hprefix
      simp [eq_comm]
  | none =>
      have hnot : path ≠ front ++ '/' :: rest := by
        rintro rfl
        have hsome : (front ++ ['/']).isPrefixOf? (front ++ '/' :: rest) = some rest :=
          List.isPrefixOf?_eq_some_iff_append_eq.mpr (by simp)
        simp [hsome] at hprefix
      simp only [hnot, false_or]
      split <;> simp_all [eq_comm]

namespace Router

/-- The base path that was given to a router last, when it was made or later. -/
inductive Based (base : String) : Router → Prop
  | new {settings : Settings} {modules : Modules} {registry : Option Registry} {r : Router} :
      settings.basePath = .text base → make settings modules registry = .ok r → Based base r
  | rebase {r : Router} : r.Reachable → Based base (r.setBasePath base)
  | keep {r : Router} (operation : Operation) : (∀ path, operation ≠ .setBasePath path) →
      Based base r → Based base (operation.perform r).router

theorem setBasePath_basePath (r : Router) (path : String) :
    (r.setBasePath path).basePath = Path.normalizeBase path := by
  rw [setBasePath]
  dsimp only
  split <;> rfl

theorem Step.basePath {r s : Router} {operation : Operation} (h : r.Step operation s)
    (hkeep : ∀ path, operation ≠ .setBasePath path) : s.basePath = r.basePath := by
  cases h with
  | rebase path hrebase => exact absurd hrebase (hkeep path)
  | compile hopen hbuild _ => exact (build_of_ok hopen hbuild).2.2.1
  | _ => rfl

theorem Based.reachable {base : String} {r : Router} (h : r.Based base) : r.Reachable := by
  induction h with
  | new _ hmake => exact .new hmake
  | rebase hreachable => exact hreachable.perform (.setBasePath base)
  | keep operation _ _ ih => exact ih.perform operation

theorem Based.basePath {base : String} {r : Router} (h : r.Based base) :
    r.basePath = Path.normalizeBase base := by
  induction h with
  | new htext hmake =>
      rw [make, htext] at hmake
      rw [← Except.ok.inj hmake]
  | rebase _ => exact setBasePath_basePath _ base
  | keep operation hkeep _ ih => exact ((step_perform _ operation).basePath hkeep).trans ih

theorem Reachable.exists_based {r : Router} (h : r.Reachable) : ∃ base, r.Based base := by
  induction h with
  | @new settings modules registry r hmake =>
      obtain ⟨base, hbase, -⟩ := exists_of_make hmake
      exact ⟨base, .new hbase hmake⟩
  | @perform r operation hreachable ih =>
      by_cases hrebase : ∃ path, operation = .setBasePath path
      · obtain ⟨path, rfl⟩ := hrebase
        exact ⟨path, .rebase hreachable⟩
      · obtain ⟨base, hbase⟩ := ih
        exact ⟨base, .keep operation (fun path heq => hrebase ⟨path, heq⟩) hbase⟩

theorem Reachable.basePath {r : Router} (h : r.Reachable) :
    ∃ front, r.basePath.toList = front ++ ['/'] ∧ front.getLast? ≠ some '/' := by
  obtain ⟨base, hbase⟩ := h.exists_based
  rw [hbase.basePath]
  exact Path.exists_front base

theorem Reachable.exists_front {r : Router} (h : r.Reachable) :
    ∃ front, r.basePath.toList = front ++ ['/'] ∧ front.getLast? ≠ some '/' ∧
      ∀ path rest, remainder? r.basePath.toList path = some rest ↔
        path = front ++ '/' :: rest ∨ path = front ∧ rest = [] := by
  obtain ⟨front, hbase, hfront⟩ := h.basePath
  refine ⟨front, hbase, hfront, fun path rest => ?_⟩
  rw [hbase]
  exact Engine.remainder?_eq_some_iff hfront

end Router

end HttpRouting
