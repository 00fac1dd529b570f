import DemoBuild.Config.Value
import DemoBuild.Dictionary
import DemoBuild.Error

/-!
# Configurations

A configuration maps keys to values. Keys are paths whose parts are separated by `:` or `.`, which
mean the same: every key is brought into the form with `:` before it is stored or looked up. The
entries are kept in the order of their keys, so that the keys of one section stand together and a
section is found by looking at a single entry.
-/

namespace DemoBuild

/-- A configuration. -/
structure Config where
  /-- The values by key. -/
  values : Dictionary Value

namespace Config

/-- The form in which a key is stored: `.` becomes `:`. -/
def normalizeKey (key : String) : String :=
  String.ofList (key.toList.map fun c => if c = '.' then ':' else c)

/-- The configuration without entries. -/
def empty : Config :=
  ⟨.empty⟩

/-- Sets the value of a key. -/
def set (c : Config) (key : String) (value : Value) : Config :=
  ⟨c.values.insert (normalizeKey key) value⟩

/-- Sets several entries one after the other. -/
def setAll (c : Config) (entries : List (String × Value)) : Config :=
  entries.foldl (fun c entry => c.set entry.1 entry.2) c

/-- The value of a key. -/
def get? (c : Config) (key : String) : Option Value :=
  c.values.get? (normalizeKey key)

/-- The key has a value. -/
def contains (c : Config) (key : String) : Bool :=
  (c.get? key).isSome

/-- Sets the value of a key that has none. -/
def setDefault (c : Config) (key : String) (value : Value) : Config :=
  if c.contains key then c else c.set key value

/-- The key switches something on: its value does, or it has none but is a section with entries. -/
def isEnabled (c : Config) (key : String) : Bool :=
  match c.get? key with
  | some value => value.truthy
  | none =>
    let start := normalizeKey key ++ ":"
    match c.values.firstFrom? start with
    | some (first, _) => start.toList.isPrefixOf first.toList
    | none => false

/-- The text of a value that is not a list. -/
def text? (c : Config) (key : String) : Except Error (Option String) :=
  match c.get? key with
  | none => .ok none
  | some (.list _) => .error (.invalidConfig key .text)
  | some value => .ok (some value.render)

/-- The key has a value that switches something on. -/
def flag (c : Config) (key : String) : Bool :=
  (c.get? key).any Value.truthy

/-- The value as an integer. -/
def integer? (c : Config) (key : String) : Except Error (Option Int) :=
  match c.get? key with
  | none => .ok none
  | some value =>
    match value.integer? with
    | some n => .ok (some n)
    | none => .error (.invalidConfig key .integer)

/-- The value as a number. -/
def number? (c : Config) (key : String) : Except Error (Option Float) :=
  match c.get? key with
  | none => .ok none
  | some value =>
    match value.number? with
    | some x => .ok (some x)
    | none => .error (.invalidConfig key .number)

/-- The texts of a list, or of a lone value; none if the key has no value. -/
def texts (c : Config) (key : String) : List String :=
  match c.get? key with
  | none => []
  | some value => value.texts

/-- The text of a value that must be there. -/
def needText (c : Config) (key : String) : Except Error String := do
  match ← c.text? key with
  | some text => .ok text
  | none => .error (.missingConfig [key])

/-- The value as a path; it must be there. -/
def path (c : Config) (key : String) : Except Error Path := do
  return ⟨← c.needText key⟩

/-- Fails with all of the keys that have no value. -/
def require (c : Config) (keys : List String) : Except Error Unit :=
  let missing := keys.filter fun key => !c.contains key
  if missing.isEmpty then .ok () else .error (.missingConfig missing)

end Config

end DemoBuild
