import DemoBuild.Config.Store
import DemoBuild.Session
import DemoBuild.Yaml.Tree

/-!
# Configurations from documents

A document tree is flattened: each leaf that is a value becomes an entry, whose key joins the keys
on the way to it. `ConfigItem.ofTree` lists the entries in document order and `Config.ofTree` stores
them one after the other, so that of several leaves with one key the last one counts.
-/

namespace DemoBuild

/-- What a document contributes to a configuration. -/
inductive ConfigItem where
  /-- An entry. -/
  | entry (key : String) (value : Value)
  /-- A key that is no scalar is left out with all below it. -/
  | skipped (section? : String)

namespace ConfigItem

/-- Numbers in keys are written with an exponent only where the point would be far from the digits,
whole ones end in `.0`, and of two equally near digits the even one is written. -/
def keyFloatStyle : Number.FloatStyle :=
  { wholeSuffix := ".0", points := some (-5, 16), tie := .even, nan := ".nan",
    infinity := ".inf" }

mutual

/-- The value of a leaf; tags do not count. Integers beyond sixty-four bits become floating-point
numbers, and items of a list that are no values are left out. -/
def leafValue? : Yaml.Tree → Option Value
  | .bool b => some (.bool b)
  | .integer n =>
    if Number.fitsInt64 n then some (.integer n) else some (.float (Double.nearestInt n))
  | .float x => some (.float x)
  | .text s => some (.text s)
  | .sequence items => some (.list (leafValues items))
  | .tagged _ node => leafValue? node
  | .null => none
  | .mapping _ => none

/-- The values of the items that are values. -/
def leafValues : List Yaml.Tree → List Value
  | [] => []
  | item :: items =>
    match leafValue? item with
    | some value => value :: leafValues items
    | none => leafValues items

end

/-- The text of a key that is a scalar. -/
def keyText? : Yaml.Tree → Option String
  | .text s => some s
  | .integer n => some (Number.intText n)
  | .float x => some (keyFloatStyle.render x)
  | .bool true => some "true"
  | .bool false => some "false"
  | _ => none

/-- The key of an entry below `key`. -/
def childKey (key name : String) : String :=
  if key.isEmpty then Config.normalizeKey name else key ++ ":" ++ Config.normalizeKey name

mutual

/-- What a tree at `key` contributes, in document order. -/
def ofTree (key : String) : Yaml.Tree → List ConfigItem
  | .mapping entries => ofEntries key entries
  | leaf => ((leafValue? leaf).map (.entry key)).toList

/-- What the entries of a mapping at `key` contribute. -/
def ofEntries (key : String) : List (Yaml.Tree × Yaml.Tree) → List ConfigItem
  | [] => []
  | (name, child) :: rest =>
    match keyText? name with
    | some name => ofTree (childKey key name) child ++ ofEntries key rest
    | none => .skipped key :: ofEntries key rest

end

/-- The entry of an item, if it is one. -/
def entry? : ConfigItem → Option (String × Value)
  | .entry key value => some (key, value)
  | .skipped _ => none

/-- The warning for a key that is left out. -/
def warning? : ConfigItem → Option LogEntry
  | .entry .. => none
  | .skipped key =>
    some ⟨.warning, "ignoring non-scalar configuration key under '" ++ key ++ "'"⟩

end ConfigItem

namespace Config

/-- Stores several entries one after the other, under their keys as they are. -/
def storeAll (c : Config) (entries : List (String × Value)) : Config :=
  ⟨entries.foldl (fun values entry => values.insert entry.1 entry.2) c.values⟩

/-- The configuration of a document tree. The keys of its entries have been brought into the form in
which keys are stored on the way to them. -/
def ofTree (t : Yaml.Tree) : Config :=
  empty.storeAll ((ConfigItem.ofTree "" t).filterMap ConfigItem.entry?)

/-- The warnings about a document tree. -/
def warnings (t : Yaml.Tree) : List LogEntry :=
  (ConfigItem.ofTree "" t).filterMap ConfigItem.warning?

end Config

end DemoBuild
