import DemoBuild.Include.Expansion
import DemoBuild.Yaml.Tree

/-!
# File references

The code of a shader may be kept in files: where a field whose name ends in `Code` is a mapping with
the single entry `file`, the text of that file with its includes expanded takes its place. All else
stays as it is.
-/

namespace DemoBuild.Manifest

open Yaml (Tree)

/-- The key names a field for code. -/
def isCodeField (key : Tree) : Bool :=
  match key.text? with
  | some name => "Code".toList.isSuffixOf name.toList
  | none => false

/-- The file that a tree refers to. -/
def reference? : Tree → Option String
  | .mapping [(.text "file", file)] => file.text?
  | _ => none

/-- The file that an entry of a mapping refers to. -/
def entryReference? (key value : Tree) : Option String :=
  if isCodeField key then reference? value else none

/-- The text of a file that is referred to from the directory `base`. -/
def loadCode (base : Path) (file : String) : Action String := do
  let path := (base.join ⟨file⟩).normalize
  Action.log .debug ("Loading code from " ++ path.text)
  Action.flatten path

mutual

/-- Replaces the file references of a tree. -/
def resolve (base : Path) : Tree → Action Tree
  | .mapping entries => Tree.mapping <$> resolveEntries base entries
  | .sequence items => Tree.sequence <$> resolveItems base items
  | t => return t

/-- Replaces the file references of several trees. -/
def resolveItems (base : Path) : List Tree → Action (List Tree)
  | [] => return []
  | item :: items => do
    let item ← resolve base item
    let items ← resolveItems base items
    return item :: items

/-- Replaces the file references of several entries. -/
def resolveEntries (base : Path) : List (Tree × Tree) → Action (List (Tree × Tree))
  | [] => return []
  | (key, value) :: entries => do
    let value ←
      match entryReference? key value with
      | some file => Tree.text <$> loadCode base file
      | none => resolve base value
    let entries ← resolveEntries base entries
    return (key, value) :: entries

end

end DemoBuild.Manifest
