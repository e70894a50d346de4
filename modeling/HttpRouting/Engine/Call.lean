import HttpRouting.Engine

/-!
# Calls on engines

All that can be asked of an engine by itself, as data.  Entries are searched
by their patterns, each of which is looked up in the memory or compiled anew,
so that even a search leads to another engine, and so does one that fails.
The reachable engines are those that calls on a new engine lead to.
-/

namespace HttpRouting.Engine

variable {α : Type}

/-! ## Searching -/

def searchFrom (method : String) (rest : List Char) :
    List (Entry α) → Engine α → Except EngineError (Option (Hit α)) × Engine α
  | [], e => (.ok none, e)
  | entry :: entries, e =>
    if entry.methods.contains method then
      match e.compile entry.pattern with
      | .error error => (.error error, e)
      | .ok (compiled, e) =>
        let entry := { entry with compiled := compiled }
        match entry.fits? method rest with
        | .error error => (.error error, e)
        | .ok (some cursor) => ((entry.hit cursor).map some, e)
        | .ok none => searchFrom method rest entries e
    else searchFrom method rest entries e

def search (e : Engine α) (path method : String) :
    Except EngineError (Option (Hit α)) × Engine α :=
  match remainder? e.basePath.toList path.toList with
  | none => (.ok none, e)
  | some rest => searchFrom (Text.upper method) rest e.entries e

/-! ## Calls -/

inductive Call (α : Type) where
  | addTypes (types : Pairs String)
  | map (methods : List String) (pattern : String) (target : α) (name : Option String)
  | search (path method : String)
  | generate (name : String) (params : Pairs Value)

inductive Answer (α : Type) where
  | done
  | found (hit : Option (Hit α))
  | url (url : String)

def Call.perform (call : Call α) (e : Engine α) : Except EngineError (Answer α) × Engine α :=
  match call with
  | addTypes types => (.ok .done, e.addTypes types)
  | map methods pattern target name =>
    match e.map methods pattern target name with
    | .ok next => (.ok .done, next)
    | .error error => (.error error, e)
  | search path method =>
    let (result, e) := e.search path method
    (result.map .found, e)
  | generate name params => ((e.generate name params).map .url, e)

def Call.types? : Call α → Option (Pairs String)
  | addTypes types => some types
  | _ => none

def after (e : Engine α) (calls : List (Call α)) : Engine α :=
  calls.foldl (fun e call => (call.perform e).2) e

inductive Reachable : Engine α → Prop
  | new (basePath : String) : Reachable { basePath := basePath }
  | perform {e : Engine α} (call : Call α) : Reachable e → Reachable (call.perform e).2

theorem Reachable.after {e : Engine α} (h : e.Reachable) (calls : List (Call α)) :
    (e.after calls).Reachable := by
  induction calls generalizing e with
  | nil => exact h
  | cons call rest ih => exact ih (h.perform call)

end HttpRouting.Engine
