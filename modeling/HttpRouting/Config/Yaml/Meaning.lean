import HttpRouting.Config.Yaml.Making

/-!
# The value of a document

What has been made of the nodes is put together to one value, each part once.
A collection inside itself is cut off as null.
-/

namespace HttpRouting.Yaml

namespace Making

abbrev Assembly := StateM (Array (Option Value))

def assemble (made : Array (Option Made)) (fuel : Nat) (place : Place) : Assembly Value := do
  match fuel with
  | 0 => return .null
  | fuel + 1 =>
    if let some v := ((← get)[place]?).join then return v
    modify (·.setIfInBounds place (some .null))
    let v ← match (made[place]?).join with
      | none => pure .null
      | some (.scalar v) => pure v
      | some (.set members) => pure (.set members)
      | some (.list items) => Value.list <$> items.mapM (assemble made fuel)
      | some (.table entries) =>
        Value.table <$> entries.mapM fun (key, item) => return (key, ← assemble made fuel item)
      | some (.pairs entries) =>
        Value.list <$> entries.mapM fun (key, item) => do
          return .list [← assemble made fuel key, ← assemble made fuel item]
    modify (·.setIfInBounds place (some v))
    return v

end Making

def Document.value (d : Document) : Except Error Value := do
  let (_, making) ← (Maker.makeAll d.root).run (.ofDocument d)
  let assembled := (Making.assemble making.made (d.nodes.size + 1) d.root).run (Array.replicate d.nodes.size none)
  return assembled.1

end HttpRouting.Yaml
