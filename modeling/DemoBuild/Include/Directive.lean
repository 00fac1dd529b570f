import DemoBuild.Text.Blank

/-!
# Include directives

A directive is `#include`, optional white space, and a target between quotes or angle brackets. A
text is searched from left to right; `splitFirst` gives what stands in front of the first directive,
the directive, and what follows it, and nothing of the text is lost (`splitFirst_eq`).
-/

namespace DemoBuild

/-- A directive that asks for the text of another file. -/
structure Directive where
  /-- The directive as it is written. -/
  text : List Char
  /-- The path between the quotes or brackets. -/
  target : List Char
  deriving DecidableEq, Repr

namespace Directive

/-- The word that starts a directive. -/
def keyword : List Char :=
  "#include".toList

/-- The mark that closes a target, by the one that opens it. -/
def closing? : Char → Option Char
  | '"' => some '"'
  | '<' => some '>'
  | _ => none

/-- The directive that a text starts with. -/
def atStart? (text : List Char) : Option Directive :=
  if keyword.isPrefixOf text then
    let afterKeyword := text.drop keyword.length
    let blanks := afterKeyword.takeWhile Text.isBlank
    match afterKeyword.drop blanks.length with
    | [] => none
    | opening :: inner =>
      match closing? opening with
      | none => none
      | some closing =>
        let target := inner.takeWhile (· ≠ closing)
        if target.length < inner.length then
          some ⟨text.take (keyword.length + blanks.length + target.length + 2), target⟩
        else none
  else none

/-- A directive is not empty. -/
theorem text_ne_nil_of_atStart? {c : Char} {text : List Char} {d : Directive}
    (h : atStart? (c :: text) = some d) : d.text ≠ [] := by
  simp only [atStart?] at h
  split at h
  · split at h
    · simp at h
    · split at h
      · simp at h
      · split at h
        · simp only [Option.some.injEq] at h
          simp [← h]
        · simp at h
  · simp at h

/-- A directive is written at the start of the text. -/
theorem text_prefix_of_atStart? {text : List Char} {d : Directive} (h : atStart? text = some d) :
    d.text <+: text := by
  simp only [atStart?] at h
  split at h
  · split at h
    · simp at h
    · split at h
      · simp at h
      · split at h
        · simp only [Option.some.injEq] at h
          rw [← h]
          exact List.take_prefix _ _
        · simp at h
  · simp at h

/-- What stands in front of the first directive, the directive, and what follows it. What has been
passed over already is given in reverse. -/
def splitFirst (passed : List Char) : List Char → List Char × Option (Directive × List Char)
  | [] => (passed.reverse, none)
  | c :: text =>
    match atStart? (c :: text) with
    | some d => (passed.reverse, some (d, (c :: text).drop d.text.length))
    | none => splitFirst (c :: passed) text

/-- The split loses nothing, and a directive that it finds is not empty. -/
theorem splitFirst_eq (passed text : List Char) :
    match splitFirst passed text with
    | (before, none) => before = passed.reverse ++ text
    | (before, some (d, after)) =>
      before ++ d.text ++ after = passed.reverse ++ text ∧ d.text ≠ [] := by
  induction text generalizing passed with
  | nil => simp [splitFirst]
  | cons c text ih =>
    cases found : atStart? (c :: text) with
    | none =>
      have := ih (c :: passed)
      simp only [splitFirst, found]
      split at this <;> simp_all
    | some d =>
      have whole := List.prefix_iff_eq_append.1 (text_prefix_of_atStart? found)
      simp only [splitFirst, found]
      exact ⟨by rw [List.append_assoc, whole], text_ne_nil_of_atStart? found⟩

end Directive

end DemoBuild
