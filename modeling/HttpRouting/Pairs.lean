/-!
# Ordered maps

A map from text keys that remembers the order in which its keys were first
bound.  Binding a key again keeps its place and replaces its value.
-/

namespace HttpRouting

structure Pairs (α : Type) where
  entries : List (String × α)
deriving Repr, DecidableEq

namespace Pairs

variable {α β : Type}

instance : EmptyCollection (Pairs α) := ⟨⟨[]⟩⟩

instance : Inhabited (Pairs α) := ⟨∅⟩

def keys (p : Pairs α) : List String := p.entries.map Prod.fst

def size (p : Pairs α) : Nat := p.entries.length

def isEmpty (p : Pairs α) : Bool := p.entries.isEmpty

def valueOf? (key : String) : List (String × α) → Option α
  | [] => none
  | entry :: rest => if entry.1 = key then some entry.2 else valueOf? key rest

def find? (p : Pairs α) (key : String) : Option α := valueOf? key p.entries

def contains (p : Pairs α) (key : String) : Bool := (p.find? key).isSome

def insertEntry (key : String) (value : α) : List (String × α) → List (String × α)
  | [] => [(key, value)]
  | entry :: rest =>
    if entry.1 = key then (key, value) :: rest else entry :: insertEntry key value rest

def insert (p : Pairs α) (key : String) (value : α) : Pairs α :=
  ⟨insertEntry key value p.entries⟩

def insertAll (p : Pairs α) (entries : List (String × α)) : Pairs α :=
  entries.foldl (fun p entry => p.insert entry.1 entry.2) p

def ofList (entries : List (String × α)) : Pairs α := insertAll ∅ entries

/-- The bindings of both maps, where those of the second win. -/
def merge (p q : Pairs α) : Pairs α := p.insertAll q.entries

def map (f : α → β) (p : Pairs α) : Pairs β := ⟨p.entries.map fun entry => (entry.1, f entry.2)⟩

/-! ## Looking up after binding -/

theorem valueOf?_insertEntry (key other : String) (value : α) (entries : List (String × α)) :
    valueOf? other (insertEntry key value entries) =
      if other = key then some value else valueOf? other entries := by
  induction entries with
  | nil => by_cases h : other = key <;> simp [insertEntry, valueOf?, h, Ne.symm]
  | cons entry rest ih => by_cases hk : entry.1 = key <;> grind [insertEntry, valueOf?]

theorem find?_insert (p : Pairs α) (key other : String) (value : α) :
    (p.insert key value).find? other = if other = key then some value else p.find? other :=
  valueOf?_insertEntry key other value p.entries

end Pairs

end HttpRouting
