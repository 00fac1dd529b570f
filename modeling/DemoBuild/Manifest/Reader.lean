import DemoBuild.Yaml.Error
import DemoBuild.Yaml.Tree

/-!
# Readers of document trees

A `Reader` makes a value from a tree or says why the tree does not fit. Records are read field by
field in document order, so that of several faults the first one is reported; a field that is
missing is noticed at the end. Tags do not count, and nothing at all stands for an empty record or
list.
-/

namespace DemoBuild.Yaml

/-- Makes a value from a tree. -/
abbrev Reader (α : Type) :=
  Tree → Except Mismatch α

/-- What a tree is found to be. -/
def Tree.found : Tree → Found
  | .null => .null
  | .bool b => .bool b
  | .integer n => .integer n
  | .float x => .float x
  | .text s => .text s
  | .sequence _ => .sequence
  | .mapping _ => .mapping
  | .tagged .. => .tagged

/-- The complaint that a tree is something else. -/
def Tree.refuse {α : Type} (t : Tree) (expected : Expected) : Except Mismatch α :=
  .error (.unexpected t.found expected)

namespace Reader

/-- Reads a text; `expected` names it in complaints. -/
def textAs (expected : Expected) : Reader String := fun t =>
  match t.untagged with
  | .text s => .ok s
  | t => t.refuse expected

/-- Reads a text. -/
def text : Reader String :=
  textAs .text

/-- Reads a truth value. -/
def bool : Reader Bool := fun t =>
  match t.untagged with
  | .bool b => .ok b
  | t => t.refuse .bool

/-- Reads a value that may be absent. -/
def optional {α : Type} (reader : Reader α) : Reader (Option α)
  | .null => .ok none
  | t => some <$> reader t

/-- Reads a list. -/
def list {α : Type} (reader : Reader α) : Reader (List α) := fun t =>
  match t.untagged with
  | .sequence items => items.mapM reader
  | .null => .ok []
  | t => t.refuse .sequence

/-- The entries of a mapping. -/
def entries (expected : Expected) : Reader (List (Tree × Tree)) := fun t =>
  match t.untagged with
  | .mapping entries => .ok entries
  | .null => .ok []
  | t => t.refuse expected

/-- How a field of a record is read into what is known of the record. -/
structure Field (σ : Type) where
  /-- The name of the field. -/
  name : String
  /-- Reads the field. -/
  read : σ → Reader σ

/-- A field with the reader of its value and the way to store it. -/
def field {σ α : Type} (name : String) (reader : Reader α) (store : σ → α → σ) : Field σ :=
  ⟨name, fun record t => store record <$> reader t⟩

/-- Reads the entries of a record one after the other. `seen` holds the fields that have been read;
entries that are no fields are left out. -/
def readFields {σ : Type} (fields : List (Field σ)) (record : σ) (seen : List String) :
    List (Tree × Tree) → Except Mismatch (σ × List String)
  | [] => .ok (record, seen)
  | (key, value) :: rest => do
    let name ← textAs .fieldName key
    match fields.find? (·.name = name) with
    | none => readFields fields record seen rest
    | some field =>
      if name ∈ seen then .error (.duplicateField name)
      let record ← field.read record value
      readFields fields record (name :: seen) rest

/-- Reads a record. Fields that are not `required` keep the values they have at the start. -/
def record {σ : Type} (name : String) (fields : List (Field σ)) (required : List String)
    (start : σ) : Reader σ := fun t => do
  let (record, seen) ← readFields fields start [] (← entries (.record name) t)
  match required.find? (· ∉ seen) with
  | some missing => .error (.missingField missing)
  | none => return record

end Reader

end DemoBuild.Yaml
