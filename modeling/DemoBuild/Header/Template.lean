import DemoBuild.Context
import DemoBuild.Dictionary
import DemoBuild.Session
import DemoBuild.Text.Word

/-!
# The main program

The main program of a demo is a template of the engine in which placeholders `/*hook:name*/` stand
for code of the demo. A placeholder is replaced by the hook of its name, or by nothing if there is
none; what is inserted is not searched again.
-/

namespace DemoBuild

/-- Code that is injected into the main program, by the name of its placeholder. -/
abbrev Hooks :=
  Dictionary String

/-- The main program with the code to inject. -/
structure MainProgram where
  /-- The code to inject. -/
  hooks : Hooks

namespace Placeholder

/-- What stands in front of the name. -/
def opening : List Char :=
  "/*hook:".toList

/-- What stands behind the name. -/
def closing : List Char :=
  "*/".toList

/-- The placeholder for a name. -/
def written (name : List Char) : List Char :=
  opening ++ name ++ closing

/-- `part` stands somewhere in a text. -/
def occurs (part : List Char) : List Char → Bool
  | [] => part.isEmpty
  | c :: text => part.isPrefixOf (c :: text) || occurs part text

/-- The name in the placeholder that a text starts with, and what follows it. -/
def atStart? (text : List Char) : Option (List Char × List Char) :=
  if opening.isPrefixOf text then
    let inner := text.drop opening.length
    let name := inner.takeWhile Text.isWord
    let after := inner.drop name.length
    if name ≠ [] && closing.isPrefixOf after then some (name, after.drop closing.length) else none
  else none

/-- What follows a placeholder is shorter than the whole. -/
theorem length_lt_of_atStart? {text name after : List Char}
    (h : atStart? text = some (name, after)) : after.length < text.length := by
  simp only [atStart?] at h
  split at h
  · rename_i pre
    have : opening.length ≤ text.length := (List.isPrefixOf_iff_prefix.1 pre).length_le
    have : opening.length = 7 := by decide
    split at h
    · simp only [Option.some.injEq, Prod.mk.injEq] at h
      rw [← h.2]
      simp only [List.length_drop]
      omega
    · simp at h
  · simp at h

/-- A text cut at its placeholders: what stands in front of the first one, and each name with what
stands behind its placeholder. What has been passed over already is given in reverse. -/
def split (passed : List Char) (text : List Char) : List Char × List (List Char × List Char) :=
  match text with
  | [] => (passed.reverse, [])
  | c :: text =>
    match h : atStart? (c :: text) with
    | some (name, after) =>
      have : after.length ≤ text.length := Nat.le_of_lt_succ (length_lt_of_atStart? h)
      let (between, rest) := split [] after
      (passed.reverse, (name, between) :: rest)
    | none => split (c :: passed) text
  termination_by text.length

end Placeholder

/-- Replaces the placeholders of a template, and gives the names for which there is no hook. -/
def injectHooks (template : String) (hooks : Hooks) : String × List String :=
  let (start, rest) := Placeholder.split [] template.toList
  let code (name : List Char) := (hooks.get? (String.ofList name)).getD ""
  let text := start ++ rest.flatMap fun (name, between) => (code name).toList ++ between
  (String.ofList text,
    (rest.map fun (name, _) => String.ofList name).filter fun name => (hooks.get? name).isNone)

namespace MainProgram

/-- The name of the template. -/
def templateName : Path :=
  ⟨"main-template.cpp"⟩

/-- The template of the engine. -/
def templatePath (context : Context) : Except Error Path := do
  return (← context.engineDirectory).join templateName

/-- A template holds the placeholder for a name. -/
def hasPlaceholder (template : String) (name : String) : Bool :=
  Placeholder.occurs (Placeholder.written name.toList) template.toList

/-- Injects the hooks; every placeholder without a hook is noted. -/
def inject (template : String) (hooks : Hooks) : Action String := do
  let (text, unknown) := injectHooks template hooks
  Action.logAll (unknown.map fun name => ⟨.debug, "no hook '" ++ name ++ "', placeholder removed"⟩)
  return text

/-- The main program; there is a warning for every hook without a placeholder. -/
def render (m : MainProgram) (context : Context) : Action String := do
  let path ← templatePath context
  let template ← Action.read path
  Action.logAll ((m.hooks.keys.filter fun name => !hasPlaceholder template name).map fun name =>
    ⟨.warning, "hook '" ++ name ++ "' has no placeholder in " ++ path.text⟩)
  inject template m.hooks

end MainProgram

end DemoBuild
