import DemoBuild.Text.Word

/-!
# Interface declarations

The blocks for attributes, varyings and outputs hold declarations of the form `type name,name;`. A
stage sees the declarations with a qualifier in front, and nothing else of the block. Declarations
are looked for from left to right; each search goes on behind the declaration that was found.
-/

namespace DemoBuild

/-- A declaration of variables of one type. -/
structure Declaration where
  /-- The type. -/
  typeName : List Char
  /-- The names, separated by commas. -/
  names : List Char
  deriving DecidableEq, Repr

namespace Declaration

/-- The text of a declaration. -/
def text (d : Declaration) : List Char :=
  d.typeName ++ ' ' :: d.names ++ [';']

/-- `c` may occur in a list of names. -/
def isNameListChar (c : Char) : Bool :=
  Text.isWord c || c == ','

/-- The declaration that a text starts with, and what follows it. -/
def atStart? (text : List Char) : Option (Declaration × List Char) :=
  match text.dropWhile Text.isWord with
  | ' ' :: rest =>
    match rest.dropWhile isNameListChar with
    | ';' :: after =>
      let d : Declaration := ⟨text.takeWhile Text.isWord, rest.takeWhile isNameListChar⟩
      if d.typeName = [] ∨ d.names = [] then none else some (d, after)
    | _ => none
  | _ => none

/-- What follows a declaration is shorter than the whole. -/
theorem length_lt_of_atStart? {text after : List Char} {d : Declaration}
    (h : atStart? text = some (d, after)) : after.length < text.length := by
  have drop_le (p : Char → Bool) (l : List Char) : (l.dropWhile p).length ≤ l.length :=
    (List.dropWhile_suffix p).length_le
  simp only [atStart?] at h
  split at h
  · rename_i rest eq₁
    split at h
    · rename_i after' eq₂
      have l₁ := drop_le Text.isWord text
      have l₂ := drop_le isNameListChar rest
      rw [eq₁] at l₁
      rw [eq₂] at l₂
      simp only [List.length_cons] at l₁ l₂
      split at h
      · simp at h
      · simp only [Option.some.injEq, Prod.mk.injEq] at h
        rw [← h.2]
        omega
    · simp at h
  · simp at h

/-- The declarations of a block. -/
def findAll : List Char → List Declaration
  | [] => []
  | c :: text =>
    match h : atStart? (c :: text) with
    | some (d, rest) =>
      have : rest.length ≤ text.length := Nat.le_of_lt_succ (length_lt_of_atStart? h)
      d :: findAll rest
    | none => findAll text
  termination_by text => text.length

/-- The declaration on a line of its own, after a qualifier. -/
def qualified (qualifier : List Char) (d : Declaration) : List Char :=
  qualifier ++ ' ' :: d.text ++ ['\n']

end Declaration

/-- The declarations of a block, each after the qualifier and on a line of its own. -/
def qualify (block qualifier : String) : String :=
  String.ofList
    ((Declaration.findAll block.toList).flatMap (Declaration.qualified qualifier.toList))

end DemoBuild
