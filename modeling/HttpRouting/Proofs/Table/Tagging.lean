import HttpRouting.Proofs.Engine.Types
import HttpRouting.Proofs.Table.Layout
import HttpRouting.Proofs.Template.Divisions

/-!
# Tags over the life of a compiler

A compiler never hands out a tag again, however many templates it compiles.
The tags are its stem with the numbers from one on, in the order in which the
tokens come, so none of them is the name of a built-in type either.  That is
why an engine that learns the types of all the templates, with whatever else it
is called for in between, never binds a type that is bound already.
-/

namespace HttpRouting.Template

/-! ## One template -/

/--
What is compiled from a source has a parameter for each token of the template.
Its types are the tags of the parameters, and each of them is bound to the
constraint on the parameter that carries it.
-/
structure Compiled.IsOf (compiled : Compiled) (source : Source) : Prop where
  params : ∃ d : Division, d.IsProper ∧ d.text = source.template.toList ∧
    List.Forall₂ (Section.IsDescribedBy source.constraints) d.sections compiled.params
  keys : compiled.types.keys = compiled.tags
  bound : ∀ p ∈ compiled.params, ∀ tag, p.tag = some tag → ∃ regex,
    source.constraints.find? p.name = some regex ∧ compiled.types.find? tag = some regex

namespace Compiler

theorem isOf_compile (compiler : Compiler) (source : Source) :
    (compiler.compile source.template source.constraints).1.IsOf source where
  params := by
    obtain ⟨d, hproper, htext⟩ := Division.exists_isProper source.template.toList
    refine ⟨d, hproper, htext, ?_⟩
    have hparams := (written_pieces source.constraints hproper compiler).1
    rwa [← Division.scan_text hproper, htext] at hparams
  keys := keys_types_compile compiler source.template source.constraints
  bound := by
    intro p hp tag htag
    obtain ⟨part, hpart, hparam⟩ := List.mem_filterMap.mp hp
    cases part with
    | literal c => simp [Part.param?] at hparam
    | param q regex =>
        obtain rfl := Option.some.inj hparam
        refine ⟨regex, constraint_of_param hpart htag, ?_⟩
        refine Pairs.find?_ofList_of_mem (nodup_binding_tagPieces _ _ _) ?_
        exact List.mem_filterMap.mpr ⟨_, hpart, by simp [Part.binding?, htag]⟩

/-! ## One template after another -/

theorem tags_compileAll (sources : List Source) (compiler : Compiler) :
    (compileAll sources compiler).1.flatMap Compiled.tags =
      (List.range' compiler.next
        ((compileAll sources compiler).1.flatMap Compiled.tags).length).map
          (tagNumbered compiler.stem) := by
  induction sources generalizing compiler with
  | nil => rfl
  | cons source rest ih =>
      obtain ⟨hfirst, hnext⟩ := tags_compile compiler source.template source.constraints
      have hrest := ih (compiler.compile source.template source.constraints).2
      rw [hnext] at hrest
      simp only [compileAll, List.flatMap_cons, List.length_append, hnext]
      rw [← List.range'_append_1, List.map_append, ← hfirst, ← hrest]

theorem isOf_compileAll (sources : List Source) (compiler : Compiler) :
    List.Forall₂ (fun source compiled => compiled.IsOf source) sources
      (compileAll sources compiler).1 := by
  induction sources generalizing compiler with
  | nil => exact .nil
  | cons source rest ih => exact .cons (isOf_compile compiler source) (ih _)

theorem flatMap_keys_types {sources : List Source} {results : List Compiled}
    (h : List.Forall₂ (fun source compiled => compiled.IsOf source) sources results) :
    (results.map Compiled.types).flatMap Pairs.keys = results.flatMap Compiled.tags := by
  induction h with
  | nil => rfl
  | cons hfirst _ ih => simp only [List.map_cons, List.flatMap_cons, hfirst.keys, ih]

theorem nodup_tags_compileAll (stem : String) (sources : List Source) :
    (Engine.defaultTypes.keys ++
      (compileAll sources { stem := stem }).1.flatMap Compiled.tags).Nodup := by
  rw [tags_compileAll]
  refine List.nodup_append.mpr ⟨by decide, nodup_map_tagNumbered _ _ _, ?_⟩
  rintro key hkey tag htag rfl
  obtain ⟨n, -, rfl⟩ := List.mem_map.mp htag
  exact Pairs.find?_eq_none_iff.mp (Engine.find?_defaultTypes_tag stem n) hkey

/--
The tags that a new compiler hands out are its stem with the numbers from one
on, in the order of the templates and of their tokens.  They are all different,
and different from the names of the built-in types.  The types of each template
are its own tags, bound to the constraints that they stand for.  So a new
engine that learns the types of the templates in this order, whatever it is
called for in between, never binds a type that is bound already, and knows all
of them in the end.
-/
theorem tags_stay_fresh (stem : String) (sources : List Source) :
    let results := (compileAll sources { stem := stem }).1
    let tags := results.flatMap Compiled.tags
    tags = (List.range' 1 tags.length).map (fun n => stem ++ toString n) ∧
      tags.Nodup ∧ (∀ tag ∈ tags, tag ∉ Engine.defaultTypes.keys) ∧
      List.Forall₂ (fun source compiled => compiled.IsOf source) sources results ∧
      ∀ (α : Type) (basePath : String) (calls : List (Engine.Call α)),
        calls.filterMap Engine.Call.types? = results.map Compiled.types →
          ({ basePath := basePath } : Engine α).NeverRebinds calls ∧
            (({ basePath := basePath } : Engine α).after calls).types.entries =
              Engine.defaultTypes.entries ++
                results.flatMap fun compiled => compiled.types.entries := by
  intro results tags
  have hresults := isOf_compileAll sources { stem := stem }
  obtain ⟨-, hnodup, hbuiltIn⟩ := List.nodup_append.mp (nodup_tags_compileAll stem sources)
  refine ⟨tags_compileAll sources { stem := stem }, hnodup,
    fun tag htag hkey => hbuiltIn tag hkey tag htag rfl, hresults,
    fun α basePath calls hcalls => ?_⟩
  have hnew : ({ basePath := basePath } : Engine α).BindsOnlyNew calls := by
    rw [Engine.BindsOnlyNew, hcalls, flatMap_keys_types hresults]
    exact nodup_tags_compileAll stem sources
  have hreachable := Engine.Reachable.new (α := α) basePath
  refine ⟨hnew.neverRebinds hreachable, ?_⟩
  rw [Engine.types_after hreachable.isSettled hnew, hcalls, List.flatMap_map]

/-- A stem that is itself the name of a built-in type, and a name that is used again and again. -/
theorem tags_stay_fresh_repeated_names :
    let sources : List Source := [⟨"{id}/{id}", .ofList [("id", "[0-9]+")]⟩,
      ⟨"{id?}/{slug}/{ id }", .ofList [("slug", ""), ("id", "[a-z]+")]⟩]
    let results := (compileAll sources { stem := "a" }).1
    let calls : List (Engine.Call String) := [
      .addTypes (.ofList [("a1", "[0-9]+"), ("a2", "[0-9]+")]),
      .map ["get"] "[a1:id]/[a2:id]/" "first" (some "first"),
      .generate "first" ⟨[("id", .text "7")]⟩,
      .addTypes (.ofList [("a3", "[a-z]+"), ("a4", "[a-z]+")])]
    calls.filterMap Engine.Call.types? = results.map Compiled.types ∧
      ({ basePath := "/" } : Engine String).NeverRebinds calls ∧
      (({ basePath := "/" } : Engine String).after calls).types.entries =
        [("", "[^/]+"), ("i", "[0-9]+"), ("a", "[0-9A-Za-z]+"), ("h", "[0-9A-Fa-f]+"),
          ("a1", "[0-9]+"), ("a2", "[0-9]+"), ("a3", "[a-z]+"), ("a4", "[a-z]+")] := by
  intro sources results calls
  have hcalls : calls.filterMap Engine.Call.types? = results.map Compiled.types := by
    decide +kernel
  obtain ⟨-, -, -, -, hengine⟩ := tags_stay_fresh "a" sources
  obtain ⟨hnever, htypes⟩ := hengine String "/" calls hcalls
  refine ⟨hcalls, hnever, htypes.trans ?_⟩
  decide +kernel

end Compiler

end HttpRouting.Template
